import Dialogue.Proofs.Memory.Requests

/-! # After a purge

    A read drops what it finds expired, a purge all that has. Before or after a request, at the same
    time, a purge makes no difference to it: it is answered as it is without, and what is left is
    the same once a purge has followed (`asked_purged`). Of a read nothing can be told then
    (`looked_purged`). Where a table of memory is gone, neither drops anything
    (`looked_incomplete`). -/

namespace Dialogue.Live

/-- A read or a purge. -/
def MemoryRequest.IsLook : MemoryRequest → Prop
  | .get _ | .bucket _ _ | .purge => True
  | .set _ _ _ _ | .delete _ => False

end Dialogue.Live

namespace Dialogue.Memory.Store

open Time Live

/-! ### In the process -/

/-- What a purge leaves. -/
def purged (s : Store) (now : Instant) : Store := (s.purge now).1

variable {s s' : Store} {t now : Instant}

theorem get?_purged (s : Store) (now : Instant) (k : String) :
    (s.purged now).namespaces.get? k = s.live? now k :=
  Dict.get?_filter ..

/-- A purge leaves what is live. -/
theorem purged_congr (httl : s'.ttl = s.ttl) (hlive : ∀ k, s'.live? now k = s.live? now k) :
    s'.purged now = s.purged now := by
  have hnamespaces : (s'.purged now).namespaces = (s.purged now).namespaces := by
    ext1 k
    rw [get?_purged, get?_purged, hlive]
  unfold purged purge at *
  simp only at hnamespaces
  simp only [hnamespaces, httl]

/-- What an earlier purge dropped is not live any more. -/
theorem live?_purged (s : Store) (h : t.rank ≤ now.rank) (k : String) :
    (s.purged t).live? now k = s.live? now k := by
  rw [live?, get?_purged, live?, live?]
  cases s.namespaces.get? k with
  | none => rfl
  | some n =>
    by_cases hnow : n.isExpired now = true
    · cases ht : n.isExpired t <;> simp [Option.filter, hnow, ht]
    · have ht : n.isExpired t = false := by
        simp only [Namespace.isExpired, decide_eq_true_eq, decide_eq_false_iff_not] at hnow ⊢
        omega
      simp [Option.filter, ht]

theorem purged_purged (s : Store) (h : t.rank ≤ now.rank) :
    (s.purged t).purged now = s.purged now :=
  purged_congr rfl (s.live?_purged h)

theorem purged_evict (s : Store) (now : Instant) (c : String) :
    (s.evict now c).purged now = s.purged now := by
  refine purged_congr (s.evict_ttl now c) ?_
  intro k
  rw [live?, get?_evict]
  split
  · rename_i hk
    rw [hk, live?]
    cases s.namespaces.get? c with
    | none => rfl
    | some n => cases hn : n.isExpired now <;> simp [Option.filter, hn]
  · rfl

theorem filed_purged (s : Store) (now : Instant) (c : String) (n : Namespace) :
    ({ s.purged now with namespaces := (s.purged now).namespaces.insert c n } : Store).purged now =
      ({ s with namespaces := s.namespaces.insert c n } : Store).purged now := by
  refine purged_congr rfl ?_
  intro k
  have hk := s.live?_purged (le_refl now.rank) k
  unfold live? at hk ⊢
  simp only [Dict.get?_insert]
  split
  · rfl
  · exact hk

theorem set_purged (s : Store) (now : Instant) (c contactId : String) (us : List Update)
    (writer : Writer) :
    ((s.purged now).set now c contactId us writer).2 = (s.set now c contactId us writer).2 ∧
      ((s.purged now).set now c contactId us writer).1.purged now =
          (s.set now c contactId us writer).1.purged now := by
  have hlive := s.live?_purged (le_refl now.rank) c
  have httl : (s.purged now).ttl = s.ttl := rfl
  simp only [set, hlive, httl]
  cases s.live? now c <;> cases now.add? s.ttl
  · exact ⟨rfl, s.purged_purged (le_refl _)⟩
  all_goals exact ⟨rfl, s.filed_purged now c _⟩

theorem delete_purged (s : Store) (now : Instant) (c : String) :
    ((s.purged now).delete c).purged now = (s.delete c).purged now := by
  refine purged_congr rfl ?_
  intro k
  have hk := s.live?_purged (le_refl now.rank) k
  unfold live? at hk ⊢
  simp only [delete, Dict.get?_erase]
  split
  · rfl
  · exact hk

/-- A purge before the request makes no difference after it. -/
theorem asked_purged (s : Store) (now : Instant) {r : MemoryRequest} (hr : r ≠ .purge) :
    ((s.purged now).ask now r).2 = (s.ask now r).2 ∧
      ((s.purged now).ask now r).1.purged now = (s.ask now r).1.purged now := by
  have hlive := s.live?_purged (le_refl now.rank)
  have hsame := s.purged_purged (le_refl now.rank)
  cases r with
  | set c contactId us writer =>
    obtain ⟨hcount, hset⟩ := s.set_purged now c contactId us writer
    simp only [ask, hcount, hset, and_self]
  | get c => simp only [ask, get, hlive, purged_evict, hsame, and_self]
  | bucket c source => simp only [ask, getBucket, hlive, purged_evict, hsame, and_self]
  | delete c => exact ⟨rfl, s.delete_purged now c⟩
  | purge => exact absurd rfl hr

/-- A look drops nothing but what a purge drops. -/
theorem looked_purged (s : Store) (now : Instant) {r : MemoryRequest} (hr : r.IsLook) :
    (s.ask now r).1.purged now = s.purged now := by
  cases r with
  | set _ _ _ _ => cases hr
  | delete _ => cases hr
  | get c => exact s.purged_evict now c
  | bucket c source => exact s.purged_evict now c
  | purge => exact s.purged_purged (le_refl now.rank)

end Dialogue.Memory.Store

namespace Dialogue.Database

open Json Time Memory StateMachine Live

/-! ### In the database -/

/-- The tables without the memory of some conversations. -/
def without (db : Database) (p : String → Bool) : Database :=
  { db with
    expiries := db.expiries.filter fun k _ => !p k
    tools := db.tools.filter fun k _ => !p k
    extraction := db.extraction.filter fun k _ => !p k }

/-- Whether a purge takes the memory of the conversation away. -/
def isDue (db : Database) (now : Instant) (k : String) : Bool := (db.due now).contains k

/-- The tables of memory are there. -/
def Complete (db : Database) : Prop :=
  db.needTable .facts = .ok () ∧ db.needTable .namespaces = .ok ()

variable {db db' : Database} {t now : Instant} {c : String}

theorem purged_eq (db : Database) (now : Instant) : db.purged now = db.without (db.isDue now) := rfl

theorem isDue_eq (db : Database) (now : Instant) (k : String) :
    db.isDue now k = (db.expiries.get? k).any fun expiry => expiry ≤ now.millis := by
  rw [isDue, due, Dict.contains, Dict.get?_filter]
  cases db.expiries.get? k with
  | none => rfl
  | some expiry => cases h : decide (expiry ≤ now.millis) <;> simp [Option.filter, h]

theorem isDue_of_le (db : Database) (h : t.millis ≤ now.millis) {k : String}
    (hk : db.isDue t k = true) :
    db.isDue now k = true := by
  simp only [isDue_eq, Option.any_eq_true, decide_eq_true_eq] at hk ⊢
  obtain ⟨expiry, he, ht⟩ := hk
  exact ⟨expiry, he, le_trans ht h⟩

theorem without_without (db : Database) (p q : String → Bool) :
    (db.without p).without q = db.without fun k => p k || q k := by
  simp only [without, Dict.filter_filter_not]

theorem without_congr {p q : String → Bool} (h : ∀ k, p k = q k) : db.without p = db.without q := by
  rw [funext h]

theorem purged_without (db : Database) (p : String → Bool) (now : Instant) :
    (db.without p).purged now = db.without fun k => p k || db.isDue now k := by
  rw [purged_eq, without_without]
  refine without_congr ?_
  intro k
  have hdue : (db.without p).isDue now k = (!p k && db.isDue now k) := by
    rw [isDue_eq, isDue_eq, without, Dict.get?_filter_not]
    cases p k <;> simp
  rw [hdue]
  cases p k <;> rfl

theorem purged_purged (db : Database) (h : t.millis ≤ now.millis) :
    (db.purged t).purged now = db.purged now := by
  rw [db.purged_eq t, purged_without, db.purged_eq now]
  refine without_congr ?_
  intro k
  cases ht : db.isDue t k
  · rfl
  · rw [db.isDue_of_le h ht, Bool.true_or]

theorem setRows_without (db : Database) {p : String → Bool} (hc : p c = false) (source : Source)
    (r : Dict String) :
    (db.without p).setRows source c r = (db.setRows source c r).without p := by
  cases source <;> simp only [without, setRows, Dict.insert_filter_not _ hc]

/-! #### Checking -/

theorem dropNamespace_eq (h : db.Complete) (c : String) :
    db.dropNamespace c = .ok (db.without (· == c)) := by
  refine bind_eq_ok.2 ⟨(), h.1, bind_eq_ok.2 ⟨(), h.2, ?_⟩⟩
  simp only [without, Dict.erase_eq_filter]
  rfl

/-- What is checked is the same for the purge, which leaves nothing to be dropped. -/
theorem checkLive_purged (h : db.Complete) (c : String) (now : Instant) :
    ∃ db' live,
    db.checkLive c now = .ok (db', live) ∧
      (db.purged now).checkLive c now = .ok (db.purged now, live) ∧
      db'.purged now = db.purged now ∧ db'.isDue now c = false := by
  have hpurged : (db.purged now).expiries.get? c = if db.isDue now c then none
      else db.expiries.get? c :=
    Dict.get?_filter_not db.expiries (db.isDue now) c
  have hdue := db.isDue_eq now c
  have hnone : db.expiries.get? c = none → (db.purged now).expiries.get? c = none := by
    intro he
    rw [hpurged, he, ite_self]
  unfold checkLive
  have h₂ : (db.purged now).needTable .namespaces = .ok () := h.2
  simp only [h.2, h₂, bind, Except.bind]
  cases he : db.expiries.get? c with
  -- without an expiry nothing is due
  | none =>
    rw [he, Option.any_none] at hdue
    rw [hnone he]
    exact ⟨db, false, rfl, rfl, rfl, hdue⟩
  | some expiry =>
    rw [he, Option.any_some] at hdue
    by_cases hlive : now.millis < expiry
    -- it is live, and the purge leaves it
    · have hnot : db.isDue now c = false := by
        rw [hdue, decide_eq_false_iff_not]
        omega
      rw [hpurged, hnot, he]
      simp only [if_pos hlive, Bool.false_eq_true, if_false]
      exact ⟨db, true, rfl, rfl, rfl, hnot⟩
    -- it is due: the purge has dropped it, and the check drops it otherwise
    · have hgone : db.isDue now c = true := by
        rw [hdue, decide_eq_true_iff]
        omega
      rw [hpurged, hgone, if_pos rfl]
      simp only [if_neg hlive, dropNamespace_eq h]
      refine ⟨db.without (· == c), false, rfl, rfl, ?_, ?_⟩
      · rw [purged_without, purged_eq]
        refine without_congr ?_
        intro k
        by_cases hk : k = c
        · rw [hk, hgone, Bool.or_true]
        · simp [hk]
      · rw [isDue_eq, without, Dict.get?_filter_not db.expiries (· == c)]
        simp

/-! #### Requests -/

theorem rows_of_not_due (hc : db.isDue now c = false) (source : Source) :
    (db.purged now).rows source c = db.rows source c := by
  rw [rows_purged]
  exact if_neg (Bool.eq_false_iff.1 hc)

theorem loadBucket_purged (hc : db.isDue now c = false) (source : Source) :
    (db.purged now).loadBucket c source = db.loadBucket c source := by
  unfold loadBucket
  rw [rows_of_not_due hc]
  rfl

/-- What has come of an operation, once a purge has followed. -/
def thenPurged {α : Type} (now : Instant) (r : Except DbError (Database × α)) :
    Except DbError (Database × α) :=
  r.map fun r => (r.1.purged now, r.2)

theorem thenPurged_purged {α : Type} (db : Database) (now : Instant) (a : α) :
    thenPurged now (.ok (db.purged now, a)) = thenPurged now (.ok (db, a)) := by
  simp only [thenPurged, Except.map, db.purged_purged (le_refl now.millis)]

theorem setRows_purged (hc : db.isDue now c = false) (source : Source) (r : Dict String) :
    (db.purged now).setRows source c r = (db.setRows source c r).purged now := by
  rw [purged_eq, db.setRows_without hc]
  cases source <;> rfl

theorem putRow_expiries {source : Source} {b : Bucket} {id : String}
    (h : putRow source c b db id = .ok db') :
    db'.expiries = db.expiries := by
  unfold putRow at h
  cases hb : b.get? id with
  | none =>
    rw [hb] at h
    cases h
    rfl
  | some f =>
    rw [hb] at h
    obtain ⟨_, -, h⟩ := bind_eq_ok.1 h
    cases h
    cases source <;> rfl

theorem putRow_purged (hc : db.isDue now c = false) (source : Source) (b : Bucket) (id : String) :
    putRow source c b (db.purged now) id = (putRow source c b db id).map (·.purged now) := by
  have hinsert : (db.purged now).needInsert .facts (some id) = db.needInsert .facts (some id) := rfl
  unfold putRow
  rw [rows_of_not_due hc, hinsert]
  cases b.get? id with
  | none => rfl
  | some f =>
    cases db.needInsert .facts (some id) with
    | error e => rfl
    | ok _ => exact congrArg Except.ok (setRows_purged hc source _)

theorem putRows_expiries {source : Source} {b : Bucket} {ids : List String}
    (h : ids.foldlM (putRow source c b) db = .ok db') : db'.expiries = db.expiries := by
  induction ids generalizing db with
  | nil =>
    cases h
    rfl
  | cons id ids ih =>
    rw [List.foldlM_cons] at h
    obtain ⟨mid, hfirst, hrest⟩ := bind_eq_ok.1 h
    rw [ih hrest, putRow_expiries hfirst]

theorem putRows_purged (hc : db.isDue now c = false) (source : Source) (b : Bucket)
    (ids : List String) :
    ids.foldlM (putRow source c b) (db.purged now) = (ids.foldlM (putRow source c b) db).map
        (·.purged now) := by
  -- putting rows moves no expiry, so the conversation is not due at the next row either
  induction ids generalizing db with
  | nil => rfl
  | cons id ids ih =>
    rw [List.foldlM_cons, List.foldlM_cons, putRow_purged hc]
    cases hput : putRow source c b db id with
    | error e => rfl
    | ok mid =>
      have hmid : mid.isDue now c = false := by
        rw [← hc, isDue_eq, isDue_eq, putRow_expiries hput]
      exact ih hmid

theorem fileExpiry_purged (hc : db.isDue now c = false) (expiry : Int) :
    ({ db.purged now with expiries := (db.purged now).expiries.insert c expiry } : Database).purged
        now =
      ({ db with expiries := db.expiries.insert c expiry } : Database).purged now := by
  have hfiled :
    ({ db.purged now with expiries := (db.purged now).expiries.insert c expiry } : Database) =
      ({ db with expiries := db.expiries.insert c expiry } : Database).without (db.isDue now) := by
    simp only [purged_eq, without, Dict.insert_filter_not _ hc]
  rw [hfiled, purged_without, purged_eq]
  refine without_congr ?_
  intro k
  by_cases hk : k = c
  · rw [hk, hc, Bool.false_or]
  · have hsame : ({ db with expiries := db.expiries.insert c expiry } : Database).isDue now k =
        db.isDue now k := by
      rw [isDue_eq, isDue_eq, Dict.get?_insert, if_neg hk]
    rw [hsame, Bool.or_self]

theorem performed_get_purged (h : db.Complete) (c : String) (now : Instant) (ttl : Int) :
    thenPurged now ((db.purged now).perform now ttl (.get c)) = thenPurged now
        (db.perform now ttl (.get c)) := by
  obtain ⟨db', live, hlive, hlive', hsame, hc⟩ := checkLive_purged h c now
  simp only [perform, getMemory, hlive, hlive', bind, Except.bind]
  rw [← hsame]
  simp only [loadBucket_purged hc]
  cases live with
  | false => exact thenPurged_purged db' now _
  | true =>
    cases db'.loadBucket c .tools with
    | error e => rfl
    | ok tools =>
      cases db'.loadBucket c .extraction with
      | error e => rfl
      | ok extraction => exact thenPurged_purged db' now _

theorem performed_bucket_purged (h : db.Complete) (c : String) (source : Source) (now : Instant)
    (ttl : Int) :
    thenPurged now ((db.purged now).perform now ttl (.bucket c source)) =
      thenPurged now (db.perform now ttl (.bucket c source)) := by
  obtain ⟨db', live, hlive, hlive', hsame, hc⟩ := checkLive_purged h c now
  simp only [perform, getBucket, hlive, hlive', bind, Except.bind]
  rw [← hsame]
  simp only [loadBucket_purged hc]
  cases live with
  | false => exact thenPurged_purged db' now _
  | true =>
    cases db'.loadBucket c source with
    | error e => rfl
    | ok b => exact thenPurged_purged db' now _

theorem performed_set_purged (h : db.Complete) (c contactId : String) (us : List Update)
    (writer : Writer) (now : Instant) (ttl : Int) :
    thenPurged now ((db.purged now).perform now ttl (.set c contactId us writer)) =
      thenPurged now (db.perform now ttl (.set c contactId us writer)) := by
  -- both find the same namespace, and so read and put the same rows
  obtain ⟨db', live, hlive, hlive', hsame, hc⟩ := checkLive_purged h c now
  simp only [perform, setMemory, hlive, hlive', bind, Except.bind]
  rw [← hsame, loadBucket_purged hc, hsame]
  cases db'.loadBucket c writer.source with
  | error e => rfl
  | ok b =>
    have hput :=
      putRows_purged hc writer.source (b.writeAll contactId writer now us) (us.map (·.variableId))
    rw [← hsame]
    simp only [hput]
    cases hmid :
        (us.map (·.variableId)).foldlM (putRow writer.source c (b.writeAll contactId writer now us))
        db' with
    | error e => rfl
    | ok mid =>
      have hdue : mid.isDue now c = false := by rw [← hc, isDue_eq, isDue_eq, putRows_expiries hmid]
      have hinsert :
        (mid.purged now).needInsert .namespaces none = mid.needInsert .namespaces none := rfl
      simp only [Except.map]
      cases now.add? ttl with
      | none =>
        rw [hsame]
        exact thenPurged_purged db now _
      | some expiresAt =>
        simp only [hinsert]
        cases mid.needInsert .namespaces none with
        | error e => rfl
        | ok _ =>
          exact congrArg (fun db => Except.ok (db, _)) (fileExpiry_purged hdue expiresAt.millis)

theorem performed_delete_purged (h : db.Complete) (c : String) (now : Instant) (ttl : Int) :
    thenPurged now ((db.purged now).perform now ttl (.delete c)) = thenPurged now
        (db.perform now ttl (.delete c)) := by
  have hpurged : (db.purged now).Complete := h
  have hdropped := dropNamespace_eq hpurged c
  simp only [perform, deleteMemory, dropNamespace_eq h, hdropped, bind, Except.bind]
  have hsame :
      ((db.purged now).without (· == c)).purged now = (db.without (· == c)).purged now := by
    rw [db.purged_eq now, without_without, purged_without, purged_without]
    refine without_congr ?_
    intro k
    cases db.isDue now k <;> cases k == c <;> rfl
  exact congrArg (fun db => Except.ok (db, _)) hsame

/-- A purge before the request makes no difference after it. -/
theorem asked_purged (h : db.Complete) (now : Instant) (ttl : Int) {r : MemoryRequest}
    (hr : r ≠ .purge) :
    ((db.purged now).ask now ttl r).2 = (db.ask now ttl r).2 ∧
      ((db.purged now).ask now ttl r).1.purged now = (db.ask now ttl r).1.purged now := by
  have hperform : thenPurged now ((db.purged now).perform now ttl r) = thenPurged now
      (db.perform now ttl r) := by
    cases r with
    | set c contactId us writer => exact performed_set_purged h c contactId us writer now ttl
    | get c => exact performed_get_purged h c now ttl
    | bucket c source => exact performed_bucket_purged h c source now ttl
    | delete c => exact performed_delete_purged h c now ttl
    | purge => exact absurd rfl hr
  unfold ask
  generalize (db.purged now).perform now ttl r = x at hperform ⊢
  generalize db.perform now ttl r = y at hperform ⊢
  cases x <;> cases y <;>
    simp only [thenPurged, Except.map, reduceCtorEq, Except.ok.injEq, Except.error.injEq,
      Prod.mk.injEq] at hperform
  · exact ⟨congrArg Except.error hperform, db.purged_purged (le_refl _)⟩
  · exact ⟨congrArg Except.ok hperform.2, hperform.1⟩

/-! #### Looks -/

theorem Spares.complete (h : db.Spares db') (hdb : db.Complete) : db'.Complete := by
  unfold Complete needTable at hdb ⊢
  rwa [h.missing]

/-- Where a table of memory is gone, a check drops nothing. -/
theorem checkLive_incomplete (h : ¬ db.Complete) {live : Bool}
    (hlive : db.checkLive c now = .ok (db', live)) : db' = db := by
  obtain ⟨_, -, hlive⟩ := bind_eq_ok.1 hlive
  split at hlive
  · cases hlive
    rfl
  · split at hlive
    · cases hlive
      rfl
    · obtain ⟨_, hdrop, -⟩ := bind_eq_ok.1 hlive
      obtain ⟨_, hfacts, hdrop⟩ := bind_eq_ok.1 hdrop
      obtain ⟨_, hnamespaces, -⟩ := bind_eq_ok.1 hdrop
      exact absurd ⟨hfacts, hnamespaces⟩ h

theorem purge_eq (h : db.Complete) (now : Instant) :
    db.purge now = .ok (db.purged now, (db.due now).size) :=
  bind_eq_ok.2 ⟨(), h.1, bind_eq_ok.2 ⟨(), h.2, rfl⟩⟩

theorem purge_incomplete (h : ¬ db.Complete) {n : Nat} : db.purge now ≠ .ok (db', n) := by
  intro hpurge
  obtain ⟨_, hfacts, hpurge⟩ := bind_eq_ok.1 hpurge
  obtain ⟨_, hnamespaces, -⟩ := bind_eq_ok.1 hpurge
  exact h ⟨hfacts, hnamespaces⟩

/-- A look checks a conversation, or purges. -/
theorem performed_look {ttl : Int} {r : MemoryRequest} {a : Memory.Answer} (hr : r.IsLook)
    (h : db.perform now ttl r = .ok (db', a)) :
    (∃ n, db.purge now = .ok (db', n)) ∨ ∃ c live, db.checkLive c now = .ok (db', live) := by
  cases r with
  | set _ _ _ _ => cases hr
  | delete _ => cases hr
  | get c =>
    obtain ⟨_, hget, h⟩ := bind_eq_ok.1 h
    cases h
    exact .inr ⟨c, getMemory_checkLive hget⟩
  | bucket c source =>
    obtain ⟨_, hget, h⟩ := bind_eq_ok.1 h
    cases h
    exact .inr ⟨c, getBucket_checkLive hget⟩
  | purge =>
    obtain ⟨⟨_, n⟩, hpurge, h⟩ := bind_eq_ok.1 h
    cases h
    exact .inl ⟨n, hpurge⟩

/-- A look drops nothing but what a purge drops. -/
theorem looked_purged (h : db.Complete) (now : Instant) (ttl : Int) {r : MemoryRequest}
    (hr : r.IsLook) :
    (db.ask now ttl r).1.purged now = db.purged now := by
  unfold ask
  cases hperform : db.perform now ttl r with
  | error e => rfl
  | ok done =>
    obtain ⟨db', a⟩ := done
    rcases performed_look hr hperform with ⟨n, hpurge⟩ | ⟨c, live, hlive⟩
    · rw [purge_eq h, Except.ok.injEq, Prod.mk.injEq] at hpurge
      rw [← hpurge.1]
      exact db.purged_purged (le_refl _)
    · obtain ⟨db₁, live', hchecked, -, hsame, -⟩ := checkLive_purged h c now
      rw [hchecked] at hlive
      cases hlive
      exact hsame

/-- Where a table of memory is gone, a look drops nothing. -/
theorem looked_incomplete (h : ¬ db.Complete) (now : Instant) (ttl : Int) {r : MemoryRequest}
    (hr : r.IsLook) :
    (db.ask now ttl r).1 = db := by
  unfold ask
  cases hperform : db.perform now ttl r with
  | error e => rfl
  | ok done =>
    obtain ⟨db', a⟩ := done
    rcases performed_look hr hperform with ⟨n, hpurge⟩ | ⟨c, live, hlive⟩
    · exact absurd hpurge (purge_incomplete h)
    · exact checkLive_incomplete h hlive

end Dialogue.Database
