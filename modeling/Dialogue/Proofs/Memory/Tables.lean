import Dialogue.Proofs.Memory.Mirror

/-! # What is done to the tables of memory

    Which rows and expiries there are once an operation on memory has succeeded. What a conversation
    has is checked first, and dropped when it has expired (`Checked`); a write then puts the rows of
    its updates (`Wrote`). An operation on one conversation leaves the memory of all others
    (`setMemory_others`). -/

namespace Dialogue.Database

open Json Time Memory StateMachine

/-- The conversation has a namespace that has not expired. -/
def IsLive (db : Database) (c : String) (now : Instant) : Prop :=
  ∃ expiry, db.expiries.get? c = some expiry ∧ now.millis < expiry

/-- The namespace of the conversation has been dropped with its rows, and nothing else. -/
structure Dropped (db db' : Database) (c : String) : Prop where
  expiries : db'.expiries = db.expiries.erase c
  rows : ∀ source k, db'.rows source k = if k = c then .empty else db.rows source k

/-- What a conversation has is there to be used, or there is nothing, or it has expired. -/
inductive Checked (db : Database) (c : String) (now : Instant) : Database × Bool → Prop
  | live : db.IsLive c now → Checked db c now (db, true)
  | absent : db.expiries.get? c = none → Checked db c now (db, false)
  | expired {db' : Database} : (db.expiries.get? c).isSome → ¬ db.IsLive c now → db.Dropped db' c →
      Checked db c now (db', false)

/-- The rows of the variables have been put into one bucket, and the expiry has been moved. -/
structure Wrote (db db' : Database) (source : Source) (c : String) (b : Bucket) (ids : List String)
    (expiresAt : Instant) : Prop where
  expiries : db'.expiries = db.expiries.insert c expiresAt.millis
  rows : ∀ source' k id, (db'.rows source' k).get? id =
    if source' = source ∧ k = c ∧ id ∈ ids then (b.get? id).map textOf
    else (db.rows source' k).get? id

/-- Both have the same memory of the conversation. -/
structure SameMemory (db db' : Database) (k : String) : Prop where
  expiry : db'.expiries.get? k = db.expiries.get? k
  rows : ∀ source, db'.rows source k = db.rows source k

variable {db db' : Database} {c k : String} {now : Instant}

theorem SameMemory.refl (db : Database) (k : String) : db.SameMemory db k := ⟨rfl, fun _ => rfl⟩

theorem SameMemory.trans {db'' : Database} (h : db.SameMemory db' k) (h' : db'.SameMemory db'' k) :
    db.SameMemory db'' k :=
  ⟨h'.expiry.trans h.expiry, fun source => (h'.rows source).trans (h.rows source)⟩

/-! ### Checking -/

theorem dropNamespace_dropped (h : db.dropNamespace c = .ok db') : db.Dropped db' c := by
  obtain ⟨_, -, h⟩ := bind_eq_ok.1 h
  obtain ⟨_, -, h⟩ := bind_eq_ok.1 h
  cases h
  refine ⟨rfl, ?_⟩
  intro source k
  by_cases hk : k = c <;> cases source <;> simp [rows, hk]

theorem checkLive_checked {r : Database × Bool} (h : db.checkLive c now = .ok r) :
    db.Checked c now r := by
  obtain ⟨_, -, h⟩ := bind_eq_ok.1 h
  -- the expiry decides
  cases he : db.expiries.get? c with
  | none =>
    simp only [he] at h
    cases h
    exact .absent he
  | some expiry =>
    simp only [he] at h
    split at h
    · rename_i hlive
      cases h
      exact .live ⟨expiry, he, hlive⟩
    · rename_i hexpired
      obtain ⟨db', hdrop, h⟩ := bind_eq_ok.1 h
      cases h
      refine .expired (by rw [he]; rfl) ?_ (dropNamespace_dropped hdrop)
      rintro ⟨expiry', he', hlive⟩
      rw [he] at he'
      cases he'
      exact hexpired hlive

theorem Dropped.others (h : db.Dropped db' c) (hk : k ≠ c) : db.SameMemory db' k := by
  refine ⟨?_, ?_⟩
  · rw [h.expiries, Dict.get?_erase, if_neg hk]
  · intro source
    rw [h.rows, if_neg hk]

theorem Checked.others {live : Bool} (h : db.Checked c now (db', live)) (hk : k ≠ c) :
    db.SameMemory db' k := by
  cases h with
  | live _ => exact .refl db k
  | absent _ => exact .refl db k
  | expired _ _ hdropped => exact hdropped.others hk

/-! ### Reading -/

theorem getMemory_checked {b : Bucket} (h : db.getMemory c now = .ok (db', b)) :
    ∃ live, db.Checked c now (db', live) := by
  obtain ⟨⟨db₁, live⟩, hlive, h⟩ := bind_eq_ok.1 h
  have hchecked := checkLive_checked hlive
  cases live with
  | false =>
    cases h
    exact ⟨_, hchecked⟩
  | true =>
    obtain ⟨tools, -, h⟩ := bind_eq_ok.1 h
    obtain ⟨extraction, -, h⟩ := bind_eq_ok.1 h
    cases h
    exact ⟨_, hchecked⟩

theorem getBucket_checked {source : Source} {b : Bucket}
    (h : db.getBucket c source now = .ok (db', b)) :
    ∃ live, db.Checked c now (db', live) := by
  obtain ⟨⟨db₁, live⟩, hlive, h⟩ := bind_eq_ok.1 h
  have hchecked := checkLive_checked hlive
  cases live with
  | false =>
    cases h
    exact ⟨_, hchecked⟩
  | true =>
    obtain ⟨facts, -, h⟩ := bind_eq_ok.1 h
    cases h
    exact ⟨_, hchecked⟩

/-- Without rows there are no facts. -/
theorem loadBucket_of_no_rows {source : Source} {b : Bucket} (h : db.loadBucket c source = .ok b)
    (hrows : db.rows source c = .empty) : b = .empty := by
  obtain ⟨_, -, h⟩ := bind_eq_ok.1 h
  rw [hrows] at h
  cases h
  rfl

/-! ### Writing -/

theorem putRow_rows {source : Source} {b : Bucket} {variableId : String}
    (h : putRow source c b db variableId = .ok db') (hb : (b.get? variableId).isSome) :
    db'.expiries = db.expiries ∧ ∀ source' k id, (db'.rows source' k).get? id =
      if source' = source ∧ k = c ∧ id = variableId then (b.get? id).map textOf
        else (db.rows source' k).get? id := by
  obtain ⟨f, hf⟩ := Option.isSome_iff_exists.1 hb
  simp only [putRow, hf] at h
  obtain ⟨_, -, h⟩ := bind_eq_ok.1 h
  cases h
  refine ⟨by cases source <;> rfl, ?_⟩
  intro source' k id
  rw [rows_setRows]
  by_cases hplace : source' = source ∧ k = c
  · obtain ⟨rfl, rfl⟩ := hplace
    by_cases hid : id = variableId
    · simp [hid, hf]
    · simp [hid]
  · rw [if_neg hplace, if_neg fun hall => hplace ⟨hall.1, hall.2.1⟩]

theorem putRows_rows {source : Source} {b : Bucket} {ids : List String}
    (h : ids.foldlM (putRow source c b) db = .ok db') (hb : ∀ id ∈ ids, (b.get? id).isSome) :
    db'.expiries = db.expiries ∧ ∀ source' k id, (db'.rows source' k).get? id =
      if source' = source ∧ k = c ∧ id ∈ ids then (b.get? id).map textOf
        else (db.rows source' k).get? id := by
  -- the first row and the rest are of one bucket, so their order does not matter
  induction ids generalizing db with
  | nil =>
    cases h
    simp
  | cons variableId ids ih =>
    rw [List.foldlM_cons] at h
    obtain ⟨mid, hfirst, hrest⟩ := bind_eq_ok.1 h
    obtain ⟨hexpiries, hrow⟩ := putRow_rows hfirst (hb variableId List.mem_cons_self)
    obtain ⟨hexpiries', hrows⟩ := ih hrest fun id hid => hb id (List.mem_cons_of_mem variableId hid)
    refine ⟨hexpiries'.trans hexpiries, ?_⟩
    intro source' k id
    rw [hrows, hrow]
    by_cases hplace : source' = source ∧ k = c
    · obtain ⟨rfl, rfl⟩ := hplace
      by_cases hfirst : id = variableId <;> by_cases hlater : id ∈ ids <;> simp [hfirst, hlater]
    · rw [if_neg fun hall => hplace ⟨hall.1, hall.2.1⟩,
        if_neg fun hall => hplace ⟨hall.1, hall.2.1⟩, if_neg fun hall => hplace ⟨hall.1, hall.2.1⟩]

/-- A write that succeeds has checked what there was, and put a row for each variable
    it mentions. -/
theorem setMemory_wrote {contactId : String} {us : List Update} {writer : Writer} {ttl : Int}
    {n : Nat} (h : db.setMemory c contactId us writer now ttl = .ok (some (db', n))) :
    ∃ db₁ live b expiresAt, db.Checked c now (db₁, live) ∧ db₁.loadBucket c writer.source = .ok b ∧
      now.add? ttl = some expiresAt ∧ n = us.length ∧
      db₁.Wrote db' writer.source c (b.writeAll contactId writer now us)
          (us.map (·.variableId)) expiresAt := by
  obtain ⟨⟨db₁, live⟩, hlive, h⟩ := bind_eq_ok.1 h
  obtain ⟨b, hload, h⟩ := bind_eq_ok.1 h
  obtain ⟨db₂, hput, h⟩ := bind_eq_ok.1 h
  cases hexpiry : now.add? ttl with
  | none =>
    simp only [hexpiry] at h
    cases h
  | some expiresAt =>
    simp only [hexpiry] at h
    obtain ⟨_, -, h⟩ := bind_eq_ok.1 h
    cases h
    obtain ⟨hexpiries, hrows⟩ := putRows_rows hput fun id hid => Bucket.isSome_writeAll hid
    refine ⟨db₁, live, b, expiresAt, checkLive_checked hlive, hload, rfl, rfl, ?_, hrows⟩
    simp only [hexpiries]

theorem Wrote.others {source : Source} {b : Bucket} {ids : List String} {expiresAt : Instant}
    (h : db.Wrote db' source c b ids expiresAt) (hk : k ≠ c) : db.SameMemory db' k := by
  refine ⟨?_, ?_⟩
  · rw [h.expiries, Dict.get?_insert, if_neg hk]
  · intro source'
    ext1 id
    rw [h.rows, if_neg fun hall => hk hall.2.1]

theorem setMemory_others {contactId : String} {us : List Update} {writer : Writer} {ttl : Int}
    {n : Nat} (h : db.setMemory c contactId us writer now ttl = .ok (some (db', n))) (hk : k ≠ c) :
    db.SameMemory db' k := by
  obtain ⟨_, _, _, _, hchecked, -, -, -, hwrote⟩ := setMemory_wrote h
  exact (hchecked.others hk).trans (hwrote.others hk)

/-! ### Purging -/

theorem purge_purged {n : Nat} (h : db.purge now = .ok (db', n)) :
    db' = db.purged now ∧ n = (db.due now).size := by
  obtain ⟨_, -, h⟩ := bind_eq_ok.1 h
  obtain ⟨_, -, h⟩ := bind_eq_ok.1 h
  cases h
  exact ⟨rfl, rfl⟩

end Dialogue.Database
