import Dialogue.Proofs.Memory.Purged

/-! # Looking changes no answer

    Memories that a purge leaves alike answer every call alike, and are left so (`called_alike`),
    and a look is nothing that tells them apart (`looked_purged`). So looks can be put anywhere into
    a run of calls, and the other answers stay as they are, while the clock does not go back for the
    memory (`looking_changes_no_answer`). For a database it does so after a leap second, whose
    milliseconds are counted again: then a look may have dropped what would be found
    (`looked_in_a_leap_second`). -/

namespace Dialogue.Live

open Json Time Memory StateMachine

/-! ### In either -/

/-- What a memory can be called for. -/
inductive MemoryCall where
  | request (r : MemoryRequest)
  /-- Whether a conversation has memory that has not expired. -/
  | contains (conversationId : String)

namespace MemoryCall

/-- A read, a purge, or the question what there is. -/
def IsLook : MemoryCall → Prop
  | .request r => r.IsLook
  | .contains _ => True

/-- The call is a purge. -/
def isPurge : MemoryCall → Bool
  | .request .purge => true
  | _ => false

end MemoryCall

/-- A call of a run. -/
structure MemoryEntry where
  now : Instant
  call : MemoryCall
  /-- The call has been put into the run afterwards. -/
  inserted : Bool := false

namespace Backend

/-- A database cannot be asked what there is, and gives no answer. -/
def call (now : Instant) : Backend → MemoryCall → Backend × Option (Except StoreError Memory.Answer)
  | b, .request r => ((b.ask now r).1, some (b.ask now r).2)
  | .process versions snapshots memory, .contains c =>
    (.process versions snapshots (memory.evict now c),
      some (.ok (.present (memory.contains now c))))
  | .database db ttl, .contains _ => (.database db ttl, none)

/-- The answers to the calls of a run, without those to calls that were inserted and to purges. -/
def heard : Backend → List MemoryEntry → List (Except StoreError Memory.Answer)
  | _, [] => []
  | b, e :: es =>
    if e.inserted || e.call.isPurge then (b.call e.now e.call).1.heard es
    else (b.call e.now e.call).2.toList ++ (b.call e.now e.call).1.heard es

/-- What a purge leaves. -/
def purged (now : Instant) (b : Backend) : Backend := (b.ask now .purge).1

variable {b b' : Backend} {t now : Instant}

theorem purged_process (versions : Dict (Dict Flow.Version))
    (snapshots : Dict Conversation.Snapshot) (memory : Store) (now : Instant) :
    (process versions snapshots memory).purged now = .process versions snapshots
        (memory.purged now) :=
  rfl

theorem purged_database {db : Database} (h : db.Complete) (ttl : Int) (now : Instant) :
    (database db ttl).purged now = .database (db.purged now) ttl := by
  rw [purged, ask_database, Database.ask, Database.perform, Database.purge_eq h]
  rfl

theorem purged_incomplete {db : Database} (h : ¬ db.Complete) (ttl : Int) (now : Instant) :
    (database db ttl).purged now = .database db ttl := by
  rw [purged, ask_database]
  exact congrArg (database · ttl) (Database.looked_incomplete h now ttl trivial)

theorem not_isBefore_self (b : Backend) (now : Instant) : ¬ b.IsBefore now now := by
  cases b with
  | process versions snapshots memory => exact lt_irrefl now.rank
  | database db ttl => exact lt_irrefl now.millis

theorem purged_purged (b : Backend) (h : ¬ b.IsBefore now t) :
    (b.purged t).purged now = b.purged now := by
  cases b with
  | process versions snapshots memory =>
    have hle : t.rank ≤ now.rank := Int.not_lt.1 h
    simp only [purged_process, memory.purged_purged hle]
  | database db ttl =>
    have hle : t.millis ≤ now.millis := Int.not_lt.1 h
    by_cases hdb : db.Complete
    · have hpurged : (db.purged t).Complete := hdb
      rw [purged_database hdb, purged_database hpurged, purged_database hdb, db.purged_purged hle]
    · rw [purged_incomplete hdb, purged_incomplete hdb]

/-- A purge before the call makes no difference after it. -/
theorem called_purged (b : Backend) (now : Instant) {call : MemoryCall}
    (hcall : call.isPurge = false) :
    ((b.purged now).call now call).2 = (b.call now call).2 ∧
      ((b.purged now).call now call).1.purged now = (b.call now call).1.purged now := by
  have hsame := b.purged_purged (b.not_isBefore_self now)
  cases call with
  | request r =>
    have hr : r ≠ .purge := by
      rintro rfl
      cases hcall
    cases b with
    | process versions snapshots memory =>
      obtain ⟨hanswer, hstore⟩ := memory.asked_purged now hr
      simp only [Backend.call, purged_process, ask_process, hanswer, hstore, and_self]
    | database db ttl =>
      by_cases hdb : db.Complete
      · obtain ⟨hanswer, htables⟩ := Database.asked_purged hdb now ttl hr
        have hasked := (db.asked_spares now ttl r).complete hdb
        have hasked' : ((db.purged now).ask now ttl r).1.Complete :=
          ((db.purged now).asked_spares now ttl r).complete hdb
        simp only [Backend.call, purged_database hdb, ask_database, hanswer, purged_database hasked,
          purged_database hasked', htables, and_self]
      -- a database without its tables answers nothing, with or without the purge
      · rw [purged_incomplete hdb]
        exact ⟨rfl, rfl⟩
  | contains c =>
    cases b with
    | process versions snapshots memory =>
      simp only [Backend.call, purged_process, Store.contains,
        memory.live?_purged (le_refl now.rank), Store.purged_evict,
        memory.purged_purged (le_refl now.rank), and_self]
    | database db ttl =>
      by_cases hdb : db.Complete
      · rw [purged_database hdb] at hsame ⊢
        exact ⟨rfl, hsame.trans (purged_database hdb ttl now).symm⟩
      · rw [purged_incomplete hdb]
        exact ⟨rfl, rfl⟩

/-- A look drops nothing but what a purge drops. -/
theorem looked_purged (b : Backend) (now : Instant) {call : MemoryCall} (hlook : call.IsLook) :
    (b.call now call).1.purged now = b.purged now := by
  cases call with
  | request r =>
    cases b with
    | process versions snapshots memory =>
      simp only [Backend.call, ask_process, purged_process, memory.looked_purged now hlook]
    | database db ttl =>
      by_cases hdb : db.Complete
      · have hasked := (db.asked_spares now ttl r).complete hdb
        simp only [Backend.call, ask_database, purged_database hdb, purged_database hasked,
          Database.looked_purged hdb now ttl hlook]
      · simp only [Backend.call, ask_database, Database.looked_incomplete hdb now ttl hlook]
  | contains c =>
    cases b with
    | process versions snapshots memory =>
      simp only [Backend.call, purged_process, memory.purged_evict]
    | database db ttl => rfl

theorem isBefore_called (b : Backend) (now : Instant) (call : MemoryCall) (t t' : Instant) :
    (b.call now call).1.IsBefore t t' ↔ b.IsBefore t t' := by
  cases call with
  | request r => exact b.isBefore_asked now r t t'
  | contains c => cases b <;> rfl

/-! ### Runs -/

theorem purged_later (hsame : b.purged t = b'.purged t) (h : ¬ b.IsBefore now t) :
    b.purged now = b'.purged now := by
  have hkind (x : Backend) : (x.purged t).IsBefore now t ↔ x.IsBefore now t :=
    x.isBefore_called t (.request .purge) now t
  have h' : ¬ b'.IsBefore now t := by rwa [← hkind, ← hsame, hkind]
  rw [← b.purged_purged h, hsame, b'.purged_purged h']

/-- Memories that a purge leaves alike answer alike, and are left so. -/
theorem called_alike (hsame : b.purged now = b'.purged now) (call : MemoryCall) :
    (call.isPurge = false → (b.call now call).2 = (b'.call now call).2) ∧
      (b.call now call).1.purged now = (b'.call now call).1.purged now := by
  cases hcall : call.isPurge with
  | true =>
    have hlook : call.IsLook := by
      unfold MemoryCall.isPurge at hcall
      split at hcall
      · trivial
      · cases hcall
    refine ⟨by rintro ⟨⟩, ?_⟩
    rw [b.looked_purged now hlook, b'.looked_purged now hlook, hsame]
  | false =>
    obtain ⟨hanswer, hafter⟩ := b.called_purged now hcall
    obtain ⟨hanswer', hafter'⟩ := b'.called_purged now hcall
    exact ⟨fun _ => by rw [← hanswer, hsame, hanswer'], by rw [← hafter, hsame, hafter']⟩

theorem heard_alike {es : List MemoryEntry}
    (hclock : es.Pairwise fun e e' => ¬ b.IsBefore e'.now e.now)
    (hlooks : ∀ e ∈ es, e.inserted = true → e.call.IsLook)
    (hsame : ∀ e ∈ es, b.purged e.now = b'.purged e.now) :
    b.heard es = b'.heard (es.filter fun e => !e.inserted) := by
  induction es generalizing b b' with
  | nil => rfl
  | cons e es ih =>
    obtain ⟨hfirst, hrest⟩ := List.pairwise_cons.1 hclock
    have hnow := hsame e List.mem_cons_self
    have hrest' : es.Pairwise fun x y => ¬ (b.call e.now e.call).1.IsBefore y.now x.now := by
      simpa only [isBefore_called] using hrest
    have hlater : ∀ x ∈ es, ¬ (b.call e.now e.call).1.IsBefore x.now e.now := by
      simpa only [isBefore_called] using hfirst
    have hlooks' : ∀ x ∈ es, x.inserted = true → x.call.IsLook :=
      fun x hx => hlooks x (List.mem_cons_of_mem e hx)
    cases hins : e.inserted with
    | true =>
      -- the run with the look goes on from the memory after it, the other one stays
      have hstep : (b.call e.now e.call).1.purged e.now = b'.purged e.now :=
        (b.looked_purged e.now (hlooks e List.mem_cons_self hins)).trans hnow
      rw [List.filter_cons_of_neg (by simp [hins]), heard, hins, Bool.true_or, if_pos rfl]
      exact ih hrest' hlooks' fun x hx => purged_later hstep (hlater x hx)
    | false =>
      obtain ⟨hanswer, hstep⟩ := called_alike hnow e.call
      have hrun := ih hrest' hlooks' fun x hx => purged_later hstep (hlater x hx)
      rw [List.filter_cons_of_pos (by simp [hins]), heard, heard, hins, Bool.false_or, hrun]
      split
      · rfl
      · rename_i hcall
        rw [hanswer (Bool.eq_false_iff.2 hcall)]

/-- Looks put into a run change no answer of it but those of purges, while the clock
    does not go back. -/
theorem looking_changes_no_answer {es : List MemoryEntry}
    (hclock : es.Pairwise fun e e' => ¬ b.IsBefore e'.now e.now)
    (hlooks : ∀ e ∈ es, e.inserted = true → e.call.IsLook) :
    b.heard es = b.heard (es.filter fun e => !e.inserted) :=
  heard_alike hclock hlooks fun _ _ => rfl

/-- Readings in the order of time do not go back for the memory, if there is no leap second. -/
theorem forward_of_regular (b : Backend) {es : List MemoryEntry}
    (hrank : es.Pairwise fun e e' => e.now.rank ≤ e'.now.rank)
    (hregular : ∀ e ∈ es, e.now.isLeap = false) :
    es.Pairwise fun e e' => ¬ b.IsBefore e'.now e.now := by
  refine hrank.imp_of_mem ?_
  intro e e' he _ hle
  cases b with
  | process versions snapshots memory => exact Int.not_lt.2 hle
  | database db ttl => exact Int.not_lt.2 (Time.Instant.millis_le_of_rank_le (hregular e he) hle)

/-- The name expires while others look; the date is written to what is left. -/
def lookedAtName : List MemoryEntry :=
  [{ now := .epoch, call := .request nameOfContact },
   { now := ⟨0, 510000000, by decide⟩, call := .contains "c1", inserted := true },
   { now := ⟨0, 990000000, by decide⟩, call := .request (.get "c1") },
   { now := ⟨1, 510000000, by decide⟩, call := .request (.bucket "c1" .tools), inserted := true },
   { now := ⟨2, 100000000, by decide⟩, call := .request Database.dateRequest },
   { now := ⟨2, 100000000, by decide⟩, call := .request .purge, inserted := true },
   { now := ⟨2, 600000000, by decide⟩, call := .request (.bucket "c1" .tools) }]

theorem looking_at_name_changes_no_answer : (emptyMemories (seconds 1)).Forall fun b =>
    (lookedAtName.Pairwise fun e e' => ¬ b.IsBefore e'.now e.now) ∧
      (∀ e ∈ lookedAtName, e.inserted = true → e.call.IsLook) ∧
      b.heard lookedAtName = b.heard (lookedAtName.filter fun e => !e.inserted) := by
  rw [List.forall_iff_forall_mem]
  intro b _
  have hclock : lookedAtName.Pairwise fun e e' => ¬ b.IsBefore e'.now e.now :=
    b.forward_of_regular (by decide) (by decide)
  have hlooks : ∀ e ∈ lookedAtName, e.inserted = true → e.call.IsLook := by
    simp [lookedAtName, MemoryCall.IsLook, MemoryRequest.IsLook]
  exact ⟨hclock, hlooks, looking_changes_no_answer hclock hlooks⟩

/-- The name is looked for in a leap second and then found 0.2 seconds before it expires. -/
def lookedAtInLeapSecond : List MemoryEntry :=
  [{ now := endOf2016, call := .request nameOfContact },
   { now := ⟨1483228799, 1500000000, by decide⟩, call := .request (.get "c1"), inserted := true },
   { now := ⟨1483228800, 100000000, by decide⟩, call := .request (.get "c1") }]

/-- The clock does not go back in time, but for the database: the look drops what would be found. -/
theorem looked_in_a_leap_second :
    (lookedAtInLeapSecond.Pairwise fun e e' => e.now.rank ≤ e'.now.rank) ∧
    (∀ e ∈ lookedAtInLeapSecond, e.inserted = true → e.call.IsLook) ∧
    (Backend.database {} (millis 1300)).heard lookedAtInLeapSecond =
        [.ok (.count 1), .ok (.facts .empty)] ∧
    (Backend.database {} (millis 1300)).heard (lookedAtInLeapSecond.filter fun e => !e.inserted) =
      [.ok (.count 1), .ok (.facts (nameWritten endOf2016))] ∧
    (Backend.database {} (millis 1300)).heard lookedAtInLeapSecond ≠
      (Backend.database {} (millis 1300)).heard
          (lookedAtInLeapSecond.filter fun e => !e.inserted) := by
  have hlooked : (Backend.database {} (millis 1300)).heard lookedAtInLeapSecond =
    [.ok (.count 1), .ok (.facts .empty)] := rfl
  have hmissed :
      (Backend.database {} (millis 1300)).heard (lookedAtInLeapSecond.filter fun e => !e.inserted) =
      [.ok (.count 1), .ok (.facts (nameWritten endOf2016))] := by
    have hb : Backend.database {} (millis 1300) ∈ emptyMemories (millis 1300) := by
      simp [emptyMemories]
    let w : Write :=
      ⟨endOf2016, "k1", [{ variableId := "name", value := .string "Ada" }], .tool "crm"⟩
    have hkept : (Backend.database {} (millis 1300)).Keeps w ⟨1483228800, 100000000, by decide⟩ :=
      empty_keeps hb (t := ⟨1483228800, 300000000, by decide⟩) (by decide) (by decide) (by decide)
    exact (empty_vacant hb).read_back (by decide) (Plain.canKeep (by simp [Plain, w]) _) hkept
  refine ⟨by decide, by simp [lookedAtInLeapSecond, MemoryCall.IsLook, MemoryRequest.IsLook],
    hlooked, hmissed, ?_⟩
  intro h
  rw [hlooked, hmissed] at h
  injection h with _ h
  injection h with h _
  injection h with h
  injection h with h
  cases congrArg Dict.size h

end Backend
end Dialogue.Live
