import Dialogue.Proofs.Live.Memories
import Dialogue.Proofs.Memory.Tables

/-! # No fact outlives its namespace

    A write does not clear the rows of a conversation that has no namespace, so what it starts is
    only fresh while every row belongs to a namespace (`NoOrphans`). Each request keeps this,
    whatever the clock reads and however long memory is kept (`NoOrphans.asked`). So a write that
    finds no live namespace leaves its own facts and no others. A deletion, and a look or a purge
    after the expiry, leave nothing at all (`bare_of_clears`), and nothing is there until somebody
    writes (`Bare.askedAll`). -/

namespace Dialogue.Database

open Json Time Memory StateMachine Live

/-! ### Requests -/

/-- Asks the tables of memory, which keep what is written for `ttl`. -/
def perform (db : Database) (now : Instant) (ttl : Int) :
    MemoryRequest → Except DbError (Database × Memory.Answer)
  | .set c contactId us writer => do
    match ← db.setMemory c contactId us writer now ttl with
    | some (db, n) => return (db, .count n)
    | none => return (db, .beyondCalendar)
  | .get c => do
    let (db, facts) ← db.getMemory c now
    return (db, .facts facts)
  | .bucket c source => do
    let (db, facts) ← db.getBucket c source now
    return (db, .facts facts)
  | .delete c => do
    let db ← db.deleteMemory c
    return (db, .done)
  | .purge => do
    let (db, n) ← db.purge now
    return (db, .count n)

/-- A request is one transaction. It is assumed here that the database undoes a transaction that
    fails, with all that it did before, and lets nobody in between its steps. -/
def ask (db : Database) (now : Instant) (ttl : Int) (r : MemoryRequest) :
    Database × Except DbError Memory.Answer :=
  match db.perform now ttl r with
  | .ok (db, a) => (db, .ok a)
  | .error e => (db, .error e)

/-- The tables after requests, each with what the clock reads then and how long memory is kept. -/
def askAll (db : Database) (rs : List (Instant × Int × MemoryRequest)) : Database :=
  rs.foldl (fun db r => (db.ask r.1 r.2.1 r.2.2).1) db

variable {db db' : Database} {c : String} {now : Instant} {ttl : Int}

/-- What a request that succeeds does to the tables. -/
inductive Performed (db : Database) (now : Instant) : MemoryRequest → Database → Prop where
  | unwritten {c contactId : String} {us : List Update} {writer : Writer} :
      Performed db now (.set c contactId us writer) db
  | wrote {db₁ db' : Database} {live : Bool} {b : Bucket} {expiresAt : Instant}
      {c contactId : String}
      {us : List Update} {writer : Writer} (hchecked : db.Checked c now (db₁, live))
      (hload : db₁.loadBucket c writer.source = .ok b)
      (hwrote : db₁.Wrote db' writer.source c (b.writeAll contactId writer now us)
        (us.map (·.variableId)) expiresAt) :
      Performed db now (.set c contactId us writer) db'
  | got {db' : Database} {live : Bool} {c : String} (hchecked : db.Checked c now (db', live)) :
      Performed db now (.get c) db'
  | gotBucket {db' : Database} {live : Bool} {c : String} {source : Source}
      (hchecked : db.Checked c now (db', live)) : Performed db now (.bucket c source) db'
  | deleted {db' : Database} {c : String} (hdropped : db.Dropped db' c) :
      Performed db now (.delete c) db'
  | purged : Performed db now .purge (db.purged now)

theorem perform_performed {r : MemoryRequest} {a : Memory.Answer}
    (h : db.perform now ttl r = .ok (db', a)) :
    db.Performed now r db' := by
  cases r with
  | set c contactId us writer =>
    obtain ⟨written, hset, h⟩ := bind_eq_ok.1 h
    cases written with
    | none =>
      cases h
      exact .unwritten
    | some written =>
      cases h
      obtain ⟨_, _, _, _, hchecked, hload, -, -, hwrote⟩ := setMemory_wrote hset
      exact .wrote hchecked hload hwrote
  | get c =>
    obtain ⟨_, hget, h⟩ := bind_eq_ok.1 h
    cases h
    obtain ⟨_, hchecked⟩ := getMemory_checked hget
    exact .got hchecked
  | bucket c source =>
    obtain ⟨_, hget, h⟩ := bind_eq_ok.1 h
    cases h
    obtain ⟨_, hchecked⟩ := getBucket_checked hget
    exact .gotBucket hchecked
  | delete c =>
    obtain ⟨_, hdelete, h⟩ := bind_eq_ok.1 h
    cases h
    exact .deleted (dropNamespace_dropped hdelete)
  | purge =>
    obtain ⟨_, hpurge, h⟩ := bind_eq_ok.1 h
    cases h
    rw [(purge_purged hpurge).1]
    exact .purged

/-! ### Rows and namespaces -/

/-- Every row belongs to a conversation with a namespace. -/
def NoOrphans (db : Database) : Prop :=
  ∀ source c id text, (db.rows source c).get? id = some text → (db.expiries.get? c).isSome

theorem NoOrphans.no_rows (h : db.NoOrphans) (hc : db.expiries.get? c = none) (source : Source) :
    db.rows source c = .empty := by
  ext1 id
  cases hrow : (db.rows source c).get? id with
  | none => rfl
  | some text =>
    have hthere := h source c id text hrow
    rw [hc] at hthere
    cases hthere

theorem NoOrphans.dropped (h : db.NoOrphans) (hdropped : db.Dropped db' c) : db'.NoOrphans := by
  intro source k id text hrow
  rw [hdropped.rows] at hrow
  split at hrow
  · cases hrow
  · rename_i hk
    rw [hdropped.expiries, Dict.get?_erase, if_neg hk]
    exact h source k id text hrow

theorem NoOrphans.checked {live : Bool} (h : db.NoOrphans)
    (hchecked : db.Checked c now (db', live)) :
    db'.NoOrphans := by
  cases hchecked with
  | live _ => exact h
  | absent _ => exact h
  | expired _ _ hdropped => exact h.dropped hdropped

/-- The namespace of the rows that are written is there afterwards. -/
theorem NoOrphans.wrote {source : Source} {b : Bucket} {ids : List String} {expiresAt : Instant}
    (h : db.NoOrphans) (hwrote : db.Wrote db' source c b ids expiresAt) : db'.NoOrphans := by
  intro source' k id text hrow
  rw [hwrote.expiries, Dict.get?_insert]
  by_cases hk : k = c
  · rw [if_pos hk]
    rfl
  · rw [if_neg hk]
    rw [hwrote.rows, if_neg fun hall => hk hall.2.1] at hrow
    exact h source' k id text hrow

/-- What is due goes from both tables. -/
theorem NoOrphans.purged (h : db.NoOrphans) (now : Instant) : (db.purged now).NoOrphans := by
  intro source k id text hrow
  rw [rows_purged] at hrow
  split at hrow
  · cases hrow
  · rename_i hdue
    have hthere := h source k id text hrow
    simp only [Database.purged, Dict.get?_filter]
    obtain ⟨expiry, hexpiry⟩ := Option.isSome_iff_exists.1 hthere
    simp [hexpiry, Option.filter, hdue]

theorem NoOrphans.performed {r : MemoryRequest} (h : db.NoOrphans) (hr : db.Performed now r db') :
    db'.NoOrphans := by
  cases hr with
  | unwritten => exact h
  | wrote hchecked _ hwrote => exact (h.checked hchecked).wrote hwrote
  | got hchecked
  | gotBucket hchecked => exact h.checked hchecked
  | deleted hdropped => exact h.dropped hdropped
  | purged => exact h.purged now

/-- A request keeps every row with its namespace, whether it succeeds or fails. -/
theorem NoOrphans.asked (h : db.NoOrphans) (now : Instant) (ttl : Int) (r : MemoryRequest) :
    (db.ask now ttl r).1.NoOrphans := by
  unfold ask
  cases hr : db.perform now ttl r with
  | error e => exact h
  | ok done => exact h.performed (perform_performed hr)

theorem NoOrphans.askedAll (h : db.NoOrphans) (rs : List (Instant × Int × MemoryRequest)) :
    (db.askAll rs).NoOrphans := by
  induction rs generalizing db with
  | nil => exact h
  | cons r rs ih => exact ih (h.asked r.1 r.2.1 r.2.2)

/-! ### Facts that are gone -/

/-- The conversation has no namespace and no rows. -/
structure Bare (db : Database) (c : String) : Prop where
  expiry : db.expiries.get? c = none
  rows : ∀ source, db.rows source c = .empty

/-- The request leaves nothing of the conversation: it deletes its memory, or comes on
    what is not live. -/
inductive Clears (db : Database) (now : Instant) (c : String) : MemoryRequest → Prop where
  | delete : Clears db now c (.delete c)
  | get (hlive : ¬ db.IsLive c now) : Clears db now c (.get c)
  | bucket (hlive : ¬ db.IsLive c now) (source : Source) : Clears db now c (.bucket c source)
  | purge (hlive : ¬ db.IsLive c now) : Clears db now c .purge

/-- The request writes facts of the conversation. -/
def WritesTo (c : String) : MemoryRequest → Prop
  | .set k _ _ _ => k = c
  | _ => False

theorem Dropped.bare (h : db.Dropped db' c) : db'.Bare c := by
  refine ⟨?_, ?_⟩
  · rw [h.expiries, Dict.get?_erase, if_pos rfl]
  · intro source
    rw [h.rows, if_pos rfl]

theorem Checked.bare {live : Bool} (h : db.NoOrphans) (hchecked : db.Checked c now (db', live))
    (hlive : ¬ db.IsLive c now) : db'.Bare c := by
  cases hchecked with
  | live hthere => exact absurd hthere hlive
  | absent hnone => exact ⟨hnone, h.no_rows hnone⟩
  | expired _ _ hdropped => exact hdropped.bare

theorem SameMemory.bare (h : db.SameMemory db' c) (hbare : db.Bare c) : db'.Bare c :=
  ⟨h.expiry.trans hbare.expiry, fun source => (h.rows source).trans (hbare.rows source)⟩

theorem bare_purged (h : db.NoOrphans) (hlive : ¬ db.IsLive c now) : (db.purged now).Bare c := by
  -- an expiry that is not ahead is due, and goes with its rows
  have hexpiry : (db.purged now).expiries.get? c = none := by
    simp only [Database.purged, due, Dict.contains, Dict.get?_filter]
    cases hthere : db.expiries.get? c with
    | none => rfl
    | some expiry =>
      have hdue : expiry ≤ now.millis := by
        by_contra hlater
        exact hlive ⟨expiry, hthere, not_le.1 hlater⟩
      simp [Option.filter, hdue]
  exact ⟨hexpiry, (h.purged now).no_rows hexpiry⟩

theorem bare_of_clears {r : MemoryRequest} (h : db.NoOrphans) (hclears : db.Clears now c r)
    (hr : db.Performed now r db') : db'.Bare c := by
  cases hclears with
  | delete =>
    cases hr with
    | deleted hdropped => exact hdropped.bare
  | get hlive =>
    cases hr with
    | got hchecked => exact hchecked.bare h hlive
  | bucket hlive source =>
    cases hr with
    | gotBucket hchecked => exact hchecked.bare h hlive
  | purge hlive =>
    cases hr with
    | purged => exact bare_purged h hlive

namespace Bare

theorem not_isLive (h : db.Bare c) (now : Instant) : ¬ db.IsLive c now := by
  rintro ⟨expiry, hexpiry, -⟩
  rw [h.expiry] at hexpiry
  cases hexpiry

theorem checked {k : String} {live : Bool} (h : db.Bare c)
    (hchecked : db.Checked k now (db', live)) :
    db'.Bare c := by
  by_cases hk : c = k
  · subst hk
    cases hchecked with
    | live hthere => exact absurd hthere (h.not_isLive now)
    | absent _ => exact h
    | expired _ _ hdropped => exact hdropped.bare
  · exact (hchecked.others hk).bare h

theorem purged (h : db.Bare c) (now : Instant) : (db.purged now).Bare c := by
  refine ⟨?_, ?_⟩
  · simp [Database.purged, Dict.get?_filter, h.expiry]
  · intro source
    rw [rows_purged, h.rows, ite_self]

/-- A request that does not write to the conversation brings nothing back. -/
theorem performed {r : MemoryRequest} (h : db.Bare c) (hquiet : ¬ WritesTo c r)
    (hr : db.Performed now r db') :
    db'.Bare c := by
  cases hr with
  | unwritten => exact h
  | wrote hchecked _ hwrote =>
    have hother : c ≠ _ := fun hc => hquiet hc.symm
    exact ((hchecked.others hother).trans (hwrote.others hother)).bare h
  | got hchecked
  | gotBucket hchecked => exact h.checked hchecked
  | @deleted _ k hdropped =>
    by_cases hk : c = k
    · exact hk ▸ hdropped.bare
    · exact (hdropped.others hk).bare h
  | purged => exact h.purged now

theorem asked {r : MemoryRequest} (h : db.Bare c) (hquiet : ¬ WritesTo c r) (now : Instant)
    (ttl : Int) :
    (db.ask now ttl r).1.Bare c := by
  unfold ask
  cases hr : db.perform now ttl r with
  | error e => exact h
  | ok done => exact h.performed hquiet (perform_performed hr)

theorem askedAll (h : db.Bare c) {rs : List (Instant × Int × MemoryRequest)}
    (hquiet : ∀ r ∈ rs, ¬ WritesTo c r.2.2) :
    (db.askAll rs).Bare c := by
  -- each request finds the conversation bare, and leaves it so
  induction rs generalizing db with
  | nil => exact h
  | cons r rs ih =>
    have hfirst := h.asked (hquiet r List.mem_cons_self) r.1 r.2.1
    exact ih hfirst fun r' hr' => hquiet r' (List.mem_cons_of_mem r hr')

end Bare

/-! ### Fresh namespaces -/

/-- The fact that updates leave for a variable that had none: the last value they give it, with
    the last descriptions. -/
def factOf (contactId : String) (writer : Writer) (now : Instant) (us : List Update) (id : String) :
    Option Fact :=
  let own := us.filter fun u => u.variableId = id
  own.getLast?.map fun u =>
    { Fact.new u.value writer.name contactId now with
      descriptions := own.reverse.findSome? (·.descriptions) }

/-- An empty bucket gets exactly the facts of the updates. -/
theorem get?_writeAll_empty (contactId : String) (writer : Writer) (now : Instant)
    (us : List Update) (id : String) :
    (Bucket.writeAll .empty contactId writer now us).get? id =
        factOf contactId writer now us id := by
  have hrecord : Bucket.writeAll .empty contactId writer now us =
      Bucket.recordAll .empty (us.map (⟨now, contactId, us, writer⟩, ·)) := by
    rw [Bucket.recordAll, List.foldl_map]
    rfl
  rw [hrecord, get?_recordAll, lastOf, factOf]
  simp only [List.filter_map, List.getLast?_map, ← List.map_reverse, List.findSome?_map,
    Option.map_map, Function.comp_def]

/-- Of the conversation there are the facts of the updates, in the bucket of the
    writer, and no others. -/
structure HoldsOnly (db : Database) (c contactId : String) (us : List Update) (writer : Writer)
    (now : Instant) :
    Prop where
  written : ∀ id, (db.rows writer.source c).get? id = (factOf contactId writer now us id).map textOf
  other : ∀ source, source ≠ writer.source → db.rows source c = .empty

theorem setMemory_fresh {contactId : String} {us : List Update} {writer : Writer} {n : Nat}
    (h : db.NoOrphans) (hlive : ¬ db.IsLive c now)
    (hset : db.setMemory c contactId us writer now ttl = .ok (some (db', n))) :
    db'.HoldsOnly c contactId us writer now := by
  obtain ⟨db₁, live, b, expiresAt, hchecked, hload, -, -, hwrote⟩ := setMemory_wrote hset
  have hrows := (hchecked.bare h hlive).rows
  obtain rfl := loadBucket_of_no_rows hload (hrows writer.source)
  refine ⟨?_, ?_⟩
  · intro id
    rw [hwrote.rows, hrows, get?_writeAll_empty]
    by_cases hid : id ∈ us.map (·.variableId)
    · rw [if_pos ⟨rfl, rfl, hid⟩]
    · rw [if_neg fun hall => hid hall.2.2, ← get?_writeAll_empty, Bucket.get?_writeAll hid]
      rfl
  · intro source hsource
    ext1 id
    rw [hwrote.rows, if_neg fun hall => hsource hall.1, hrows]

/-- Requests in any order, at any readings of the clock, keep every row with its namespace. One
    that fails leaves the tables as they were. A write for a conversation without a live namespace
    leaves its own facts alone. A deletion, and a look or a purge after the expiry, leave nothing
    of the conversation, and nothing that was written before it is there until the next write,
    which finds no namespace. -/
theorem no_fact_reappears (h : db.NoOrphans) (rs : List (Instant × Int × MemoryRequest)) :
    (db.askAll rs).NoOrphans ∧
      (∀ now ttl r e, ((db.askAll rs).ask now ttl r).2 = .error e →
          ((db.askAll rs).ask now ttl r).1 = db.askAll rs) ∧
      (∀ now ttl c contactId us writer n, ¬ (db.askAll rs).IsLive c now →
        ((db.askAll rs).ask now ttl (.set c contactId us writer)).2 = .ok (.count n) →
        ((db.askAll rs).ask now ttl (.set c contactId us writer)).1.HoldsOnly c contactId us
            writer now) ∧
      ∀ now ttl c r a later, (db.askAll rs).Clears now c r →
        ((db.askAll rs).ask now ttl r).2 = .ok a →
        (∀ q ∈ later, ¬ WritesTo c q.2.2) →
          (((db.askAll rs).ask now ttl r).1.askAll later).Bare c := by
  have hall := h.askedAll rs
  refine ⟨hall, ?_, ?_, ?_⟩
  -- a transaction that fails is undone as a whole
  · intro now ttl r e he
    unfold ask at he ⊢
    cases hr : (db.askAll rs).perform now ttl r with
    | error _ => rfl
    | ok done =>
      rw [hr] at he
      cases he
  -- there was no live namespace, so the bucket that is written to was empty
  · intro now ttl c contactId us writer n hlive hn
    unfold ask at hn ⊢
    cases hr : (db.askAll rs).perform now ttl (.set c contactId us writer) with
    | error e =>
      rw [hr] at hn
      cases hn
    | ok done =>
      rw [hr] at hn
      obtain ⟨written, hset, hr⟩ := bind_eq_ok.1 hr
      cases written with
      | none =>
        cases hr
        cases hn
      | some written =>
        cases hr
        exact setMemory_fresh hall hlive hset
  -- once bare, the conversation stays so without a write
  · intro now ttl c r a later hclears ha hquiet
    refine Bare.askedAll ?_ hquiet
    unfold ask at ha ⊢
    cases hr : (db.askAll rs).perform now ttl r with
    | error e =>
      rw [hr] at ha
      cases ha
    | ok done => exact bare_of_clears hall hclears (perform_performed hr)

/-- A date for the contact whose name is known. -/
def dateOfContact : Update := { variableId := "date", value := .string "tomorrow" }

/-- The name, kept for a second. -/
def nameRequest : Instant × Int × MemoryRequest := (.epoch, seconds 1, nameOfContact)

/-- The date is written later, for another contact. -/
def dateRequest : MemoryRequest := .set "c1" "k2" [dateOfContact] (.tool "crm")

/-- Three seconds after the start of 1970. -/
def afterName : Instant := ⟨3, 0, by decide⟩

/-- The name has expired when the date is written, and does not come back with it. A purge at that
    time leaves nothing, and still nothing is there when the memory is read. -/
theorem name_does_not_reappear :
    NoOrphans {} ∧ ((askAll {} [nameRequest]).rows .tools "c1").keys = ["name"] ∧
      ((askAll {} [nameRequest]).ask afterName (seconds 1) dateRequest).1.HoldsOnly "c1" "k2"
          [dateOfContact] (.tool "crm")
        afterName ∧
      (((askAll {} [nameRequest]).ask afterName (seconds 1) dateRequest).1.rows .tools "c1").keys =
          ["date"] ∧
      (((askAll {} [nameRequest]).ask afterName 0 .purge).1.askAll [(.epoch, 0, .get "c1")]).Bare
          "c1" := by
  have hempty : NoOrphans {} := by
    rintro (_ | _) c id text ⟨⟩
  have hexpired : ¬ (askAll {} [nameRequest]).IsLive "c1" afterName := by
    rintro ⟨expiry, ⟨⟩, hlive⟩
    exact absurd hlive (by decide)
  have hcount : ((askAll {} [nameRequest]).ask afterName (seconds 1) dateRequest).2 =
    .ok (.count 1) := rfl
  have hpurge : ((askAll {} [nameRequest]).ask afterName 0 .purge).2 = .ok (.count 1) := rfl
  obtain ⟨-, -, hfresh, hgone⟩ := no_fact_reappears hempty [nameRequest]
  refine ⟨hempty, rfl, hfresh _ _ _ _ _ _ _ hexpired hcount, rfl, ?_⟩
  exact hgone _ _ _ _ _ _ (.purge hexpired) hpurge (by simp [WritesTo])

end Dialogue.Database
