import Dialogue.Live.Stores
import Dialogue.Memory.Interleaving
import Dialogue.Proofs.Memory.Mirror

/-! # Both memories answer alike

    The memory of conversations in the process and the one in a database are asked the same, one
    request after the other. While the tables mirror the store, a request gets the same answer from
    both and leaves them mirrored (`mirrored_asked`), so two memories that begin empty answer every
    sequence of requests alike (`memories_agree`). Within a leap second they may not: the database
    counts the milliseconds of that second again in the next one (`apart_in_a_leap_second`). -/

namespace Dialogue.Live

open Json Time Memory

/-- What a memory can be asked. -/
inductive MemoryRequest where
  | set (conversationId contactId : String) (us : List Update) (writer : Writer)
  | get (conversationId : String)
  | bucket (conversationId : String) (source : Source)
  | delete (conversationId : String)
  | purge

namespace Backend

/-- Drops all memory that has expired, and counts the conversations. -/
def purge (now : Instant) : Backend → Except StoreError (Backend × Nat)
  | .process versions snapshots memory =>
    let (memory, n) := memory.purge now
    .ok (.process versions snapshots memory, n)
  | .database db ttl =>
    match db.purge now with
    | .ok (db, n) => .ok (.database db ttl, n)
    | .error e => .error (memoryError e)

/-- Asks the memory of a backend. -/
def perform (now : Instant) (b : Backend) :
    MemoryRequest → Except StoreError (Backend × Memory.Answer)
  | .set c contactId us writer => do
    let (b, n) ← b.setMemory c contactId us writer now
    return (b, (n.map Memory.Answer.count).getD .beyondCalendar)
  | .get c => do
    let (b, facts) ← b.getMemory c now
    return (b, .facts facts)
  | .bucket c source => do
    let (b, facts) ← b.getBucket c source now
    return (b, .facts facts)
  | .delete c => do
    let b ← b.deleteMemory c
    return (b, .done)
  | .purge => do
    let (b, n) ← b.purge now
    return (b, .count n)

/-- A request that fails leaves the backend as it was. -/
def ask (now : Instant) (b : Backend) (r : MemoryRequest) :
    Backend × Except StoreError Memory.Answer :=
  match b.perform now r with
  | .ok (b, a) => (b, .ok a)
  | .error e => (b, .error e)

/-- The answers to requests, each with what the clock reads then. -/
def askAll : Backend → List (Instant × MemoryRequest) → List (Except StoreError Memory.Answer)
  | _, [] => []
  | b, (now, r) :: rs => (b.ask now r).2 :: (b.ask now r).1.askAll rs

theorem ask_eq {b b' : Backend} {now : Instant} {r : MemoryRequest} {a : Memory.Answer}
    (h : b.perform now r = .ok (b', a)) :
    b.ask now r = (b', .ok a) := by
  rw [ask, h]

end Backend

/-- What a writer writes ends in the calendar, and survives in the text of a fact. -/
def MemoryRequest.Admitted (now : Instant) (ttl : Int) : MemoryRequest → Prop
  | .set _ _ us _ => (now.add? ttl).isSome ∧ ∀ u ∈ us, u.value.Survives 1
  | _ => True

/-! ### One request -/

variable {db : Database} {s : Store} {now : Instant}

open StateMachine in
theorem mirrored_asked (h : db.Mirrors s) (hnow : now.Whole) (httl : s.ttl % nanosPerMilli = 0)
    {r : MemoryRequest} (hr : r.Admitted now s.ttl) (versions : Dict (Dict Flow.Version))
    (snapshots : Dict Conversation.Snapshot) :
    ∃ db' s' a, (Backend.database db s.ttl).ask now r = (.database db' s.ttl, .ok a) ∧
      (Backend.process versions snapshots s).ask now r = (.process versions snapshots s', .ok a) ∧
      db'.Mirrors s' ∧ s'.ttl = s.ttl := by
  -- each operation of the database is mirrored by that of the store
  cases r with
  | set c contactId us writer =>
    obtain ⟨hcalendar, hus⟩ := hr
    obtain ⟨expiresAt, hexpiry⟩ := Option.isSome_iff_exists.1 hcalendar
    obtain ⟨db', hset, hmirrors⟩ := h.setMemory hnow c contactId writer hus httl hexpiry
    have hcount : (s.set now c contactId us writer).2 = some us.length := by
      rw [Store.set_eq s now c hexpiry]
    refine ⟨db', _, .count us.length, Backend.ask_eq ?_, Backend.ask_eq ?_, hmirrors, s.set_ttl ..⟩
    · exact bind_eq_ok.2 ⟨(.database db' s.ttl, some us.length), by rw [Backend.setMemory, hset],
        rfl⟩
    · exact bind_eq_ok.2 ⟨(.process _ _ _, some us.length), by rw [Backend.setMemory, ← hcount],
        rfl⟩
  | get c =>
    obtain ⟨db', hget, hmirrors⟩ := h.getMemory hnow c
    refine ⟨db', _, .facts (s.get now c), Backend.ask_eq ?_, Backend.ask_eq rfl, hmirrors,
      s.evict_ttl ..⟩
    exact bind_eq_ok.2 ⟨(.database db' s.ttl, s.get now c), by rw [Backend.getMemory, hget], rfl⟩
  | bucket c source =>
    obtain ⟨db', hget, hmirrors⟩ := h.getBucket hnow c source
    refine ⟨db', _, .facts (s.getBucket now c source), Backend.ask_eq ?_, Backend.ask_eq rfl,
      hmirrors, s.evict_ttl ..⟩
    exact bind_eq_ok.2
      ⟨(.database db' s.ttl, s.getBucket now c source), by rw [Backend.getBucket, hget], rfl⟩
  | delete c =>
    obtain ⟨db', hdrop, hmirrors⟩ := h.dropNamespace c
    refine ⟨db', _, .done, Backend.ask_eq ?_, Backend.ask_eq rfl, hmirrors, rfl⟩
    exact bind_eq_ok.2
      ⟨.database db' s.ttl, by rw [Backend.deleteMemory, Database.deleteMemory, hdrop], rfl⟩
  | purge =>
    obtain ⟨db', hpurge, hmirrors⟩ := h.purge hnow
    refine ⟨db', _, .count (s.purge now).2, Backend.ask_eq ?_, Backend.ask_eq rfl, hmirrors, rfl⟩
    exact bind_eq_ok.2 ⟨(.database db' s.ttl, (s.purge now).2), by rw [Backend.purge, hpurge], rfl⟩

/-! ### All requests -/

theorem mirrored_askedAll (h : db.Mirrors s) (httl : s.ttl % nanosPerMilli = 0)
    (versions : Dict (Dict Flow.Version)) (snapshots : Dict Conversation.Snapshot)
    {rs : List (Instant × MemoryRequest)} (hrs : ∀ r ∈ rs, r.1.Whole ∧ r.2.Admitted r.1 s.ttl) :
    (Backend.database db s.ttl).askAll rs = (Backend.process versions snapshots s).askAll rs ∧
      ∀ a ∈ (Backend.database db s.ttl).askAll rs, a.isOk := by
  -- the stores mirror each other after every request, with the time to live they had
  induction rs generalizing db s with
  | nil => exact ⟨rfl, fun a ha => by cases ha⟩
  | cons r rs ih =>
    obtain ⟨hnow, hr⟩ := hrs r List.mem_cons_self
    obtain ⟨db', s', a, hdatabase, hprocess, hmirrors, hsame⟩ :=
      mirrored_asked h hnow httl hr versions snapshots
    have hlater : ∀ r' ∈ rs, r'.1.Whole ∧ r'.2.Admitted r'.1 s'.ttl := by
      intro r' hr'
      rw [hsame]
      exact hrs r' (List.mem_cons_of_mem r hr')
    obtain ⟨hrest, hok⟩ := ih hmirrors (by rw [hsame]; exact httl) hlater
    rw [hsame] at hrest hok
    have hanswers : (Backend.database db s.ttl).askAll (r :: rs) =
        .ok a :: (Backend.database db' s.ttl).askAll rs := by
      rw [Backend.askAll, hdatabase]
    refine ⟨?_, ?_⟩
    · rw [hanswers, Backend.askAll, hprocess, hrest]
    · rw [hanswers, List.forall_mem_cons]
      exact ⟨rfl, hok⟩

/-- The time to live and all that the clock reads are whole milliseconds, in any order. -/
theorem memories_agree (hopen : db.MemoryOpen) (hexpiries : db.expiries = .empty)
    (htools : db.tools = .empty) (hextraction : db.extraction = .empty) {ttl : Int}
    (httl : ttl % nanosPerMilli = 0) (versions : Dict (Dict Flow.Version))
    (snapshots : Dict Conversation.Snapshot) {rs : List (Instant × MemoryRequest)}
    (hwhole : ∀ r ∈ rs, r.1.nano % 1000000 = 0) (hregular : ∀ r ∈ rs, r.1.isLeap = false)
    (hadmitted : ∀ r ∈ rs, r.2.Admitted r.1 ttl) :
    (Backend.database db ttl).askAll rs = (Backend.process versions snapshots { ttl }).askAll rs ∧
      ∀ a ∈ (Backend.database db ttl).askAll rs, a.isOk := by
  have hvacant := Database.mirrors_vacant hopen hexpiries htools hextraction ttl
  exact mirrored_askedAll hvacant httl versions snapshots fun r hr =>
    ⟨⟨hregular r hr, hwhole r hr⟩, hadmitted r hr⟩

/-! ### Runs -/

/-- The name of a contact, from a tool. -/
def nameOfContact : MemoryRequest :=
  .set "c1" "k1" [{ variableId := "name", value := .string "Ada" }] (.tool "crm")

theorem admitted_name {ttl : Int} (h : (now.add? ttl).isSome) : nameOfContact.Admitted now ttl := by
  refine ⟨h, ?_⟩
  simp only [List.forall_mem_cons, List.not_mem_nil, false_imp_iff, implies_true, and_true]
  exact ⟨trivial, by decide, rfl⟩

/-- The name is written and read, expires after a second and is purged; then the clock goes back. -/
def askedForName : List (Instant × MemoryRequest) :=
  [(.epoch, nameOfContact), (⟨0, 999000000, by decide⟩, .get "c1"),
    (⟨1, 1000000, by decide⟩, .purge),
    (.epoch, .bucket "c1" .tools)]

/-- The fact that is there once the name has been written. -/
def nameWritten (now : Instant) : Bucket :=
  Dict.empty.insert "name" (.new (.string "Ada") "crm" "k1" now)

theorem memories_agree_on_name :
    (Backend.process .empty .empty { ttl := seconds 1 }).askAll askedForName =
        [.ok (.count 1), .ok (.facts (nameWritten .epoch)), .ok (.count 1), .ok (.facts .empty)] ∧
      (Backend.database {} (seconds 1)).askAll askedForName =
        (Backend.process .empty .empty { ttl := seconds 1 }).askAll askedForName ∧
      ∀ a ∈ (Backend.database {} (seconds 1)).askAll askedForName, a.isOk := by
  refine ⟨rfl, memories_agree ⟨rfl, fun _ => rfl⟩ rfl rfl rfl (by decide) _ _ (by decide)
    (by decide) ?_⟩
  simp only [askedForName, List.forall_mem_cons, List.not_mem_nil, false_imp_iff, implies_true,
    and_true]
  exact ⟨admitted_name (by decide), trivial, trivial, trivial⟩

/-- 31 December 2016, 23:59:59. -/
def endOf2016 : Instant := ⟨1483228799, 0, by decide⟩

/-- The name is read 0.2 seconds into the leap second that follows, 0.8 seconds before
    it expires. -/
def askedInLeapSecond : List (Instant × MemoryRequest) :=
  [(endOf2016, nameOfContact), (⟨1483228799, 1200000000, by decide⟩, .get "c1")]

/-- All is as for `memories_agree`, but for the leap second: for the database the name
    has expired in it. -/
theorem apart_in_a_leap_second : Database.MemoryOpen {} ∧ seconds 1 % nanosPerMilli = 0 ∧
    (∀ r ∈ askedInLeapSecond, r.1.nano % 1000000 = 0) ∧
      (∀ r ∈ askedInLeapSecond, r.2.Admitted r.1 (seconds 1)) ∧
    (Backend.database {} (seconds 1)).askAll askedInLeapSecond =
        [.ok (.count 1), .ok (.facts .empty)] ∧
    (Backend.process .empty .empty { ttl := seconds 1 }).askAll askedInLeapSecond =
      [.ok (.count 1), .ok (.facts (nameWritten endOf2016))] ∧
    (Backend.database {} (seconds 1)).askAll askedInLeapSecond ≠
      (Backend.process .empty .empty { ttl := seconds 1 }).askAll askedInLeapSecond := by
  have hdatabase : (Backend.database {} (seconds 1)).askAll askedInLeapSecond =
    [.ok (.count 1), .ok (.facts .empty)] := rfl
  have hprocess : (Backend.process .empty .empty { ttl := seconds 1 }).askAll askedInLeapSecond =
    [.ok (.count 1), .ok (.facts (nameWritten endOf2016))] := rfl
  refine ⟨⟨rfl, fun _ => rfl⟩, by decide, by decide, ?_, hdatabase, hprocess, ?_⟩
  · simp only [askedInLeapSecond, List.forall_mem_cons, List.not_mem_nil, false_imp_iff,
      implies_true, and_true]
    exact ⟨admitted_name (by decide), trivial⟩
  · intro h
    rw [hdatabase, hprocess] at h
    injection h with _ h
    injection h with h _
    injection h with h
    injection h with h
    cases congrArg Dict.size h

end Dialogue.Live
