import Dialogue.Proofs.Memory.LastWrites

/-! # What a request leaves

    A request to a memory is one to the store in the process or to the tables of a database
    (`Backend.ask_process`, `Backend.ask_database`). It leaves all other tables as they were
    (`Database.asked_spares`). -/

namespace Dialogue.Memory.Store

open Time Live

/-- Asks the store. -/
def ask (s : Store) (now : Instant) : MemoryRequest → Store × Answer
  | .set c contactId us writer =>
    let (s, n) := s.set now c contactId us writer
    (s, (n.map Answer.count).getD .beyondCalendar)
  | .get c => (s.evict now c, .facts (s.get now c))
  | .bucket c source => (s.evict now c, .facts (s.getBucket now c source))
  | .delete c => (s.delete c, .done)
  | .purge =>
    let (s, n) := s.purge now
    (s, .count n)

end Dialogue.Memory.Store

namespace Dialogue.Database

open Json Time Memory StateMachine Live

variable {db db' : Database} {c : String} {now : Instant}

/-- A read leaves what the check leaves that comes first. -/
theorem getMemory_checkLive {r : Database × Bucket} (h : db.getMemory c now = .ok r) :
    ∃ live, db.checkLive c now = .ok (r.1, live) := by
  obtain ⟨⟨db', live⟩, hlive, h⟩ := bind_eq_ok.1 h
  cases live with
  | false =>
    cases h
    exact ⟨false, hlive⟩
  | true =>
    obtain ⟨tools, -, h⟩ := bind_eq_ok.1 h
    obtain ⟨extraction, -, h⟩ := bind_eq_ok.1 h
    cases h
    exact ⟨true, hlive⟩

theorem getBucket_checkLive {source : Source} {r : Database × Bucket}
    (h : db.getBucket c source now = .ok r) :
    ∃ live, db.checkLive c now = .ok (r.1, live) := by
  obtain ⟨⟨db', live⟩, hlive, h⟩ := bind_eq_ok.1 h
  cases live with
  | false =>
    cases h
    exact ⟨false, hlive⟩
  | true =>
    obtain ⟨facts, -, h⟩ := bind_eq_ok.1 h
    cases h
    exact ⟨true, hlive⟩

theorem asked_spares (db : Database) (now : Instant) (ttl : Int) (r : MemoryRequest) :
    db.Spares (db.ask now ttl r).1 := by
  unfold ask
  cases hr : db.perform now ttl r with
  | error e => exact .refl db
  | ok done =>
    cases r with
    | set c contactId us writer =>
      obtain ⟨written, hset, hr⟩ := bind_eq_ok.1 hr
      cases written with
      | none =>
        cases hr
        exact .refl db
      | some written =>
        cases hr
        exact setMemory_spares hset
    | get c =>
      obtain ⟨_, hget, hr⟩ := bind_eq_ok.1 hr
      cases hr
      exact getMemory_spares hget
    | bucket c source =>
      obtain ⟨_, hget, hr⟩ := bind_eq_ok.1 hr
      cases hr
      obtain ⟨_, hlive⟩ := getBucket_checkLive hget
      exact checkLive_spares hlive
    | delete c =>
      obtain ⟨_, hdelete, hr⟩ := bind_eq_ok.1 hr
      cases hr
      exact dropNamespace_spares hdelete
    | purge =>
      obtain ⟨⟨db', n⟩, hpurge, hr⟩ := bind_eq_ok.1 hr
      cases hr
      rw [(purge_purged hpurge).1]
      exact ⟨rfl, rfl, rfl, rfl⟩

end Dialogue.Database

namespace Dialogue.Live.Backend

open Json Time Memory StateMachine

theorem ask_process (versions : Dict (Dict Flow.Version)) (snapshots : Dict Conversation.Snapshot)
    (memory : Store) (now : Instant) (r : MemoryRequest) :
    (process versions snapshots memory).ask now r =
      (.process versions snapshots (memory.ask now r).1, .ok (memory.ask now r).2) := by
  cases r <;> rfl

theorem ask_database (db : Database) (ttl : Int) (now : Instant) (r : MemoryRequest) :
    (Backend.database db ttl).ask now r =
      (.database (db.ask now ttl r).1 ttl, (db.ask now ttl r).2.mapError Backend.memoryError) := by
  cases r with
  | set c contactId us writer =>
    simp only [ask, perform, setMemory, Database.ask, Database.perform, bind, Except.bind]
    rcases db.setMemory c contactId us writer now ttl with e | _ | ⟨db', n⟩ <;> rfl
  | get c =>
    simp only [ask, perform, getMemory, Database.ask, Database.perform, bind, Except.bind]
    cases db.getMemory c now <;> rfl
  | bucket c source =>
    simp only [ask, perform, getBucket, Database.ask, Database.perform, bind, Except.bind]
    cases db.getBucket c source now <;> rfl
  | delete c =>
    simp only [ask, perform, deleteMemory, Database.ask, Database.perform, bind, Except.bind]
    cases db.deleteMemory c <;> rfl
  | purge =>
    simp only [ask, perform, purge, Database.ask, Database.perform, bind, Except.bind]
    cases db.purge now <;> rfl

theorem asked_get {b b' : Backend} {c : String} {now : Instant} {facts : Bucket}
    (h : b.getMemory c now = .ok (b', facts)) :
    b.ask now (.get c) = (b', .ok (.facts facts)) :=
  ask_eq (bind_eq_ok.2 ⟨_, h, rfl⟩)

theorem asked_bucket {b b' : Backend} {c : String} {source : Source} {now : Instant}
    {facts : Bucket} (h : b.getBucket c source now = .ok (b', facts)) :
    b.ask now (.bucket c source) = (b', .ok (.facts facts)) :=
  ask_eq (bind_eq_ok.2 ⟨_, h, rfl⟩)

theorem asked_set {b b' : Backend} {c contactId : String} {us : List Update} {writer : Writer}
    {now : Instant} {n : Nat} (h : b.setMemory c contactId us writer now = .ok (b', some n)) :
    b.ask now (.set c contactId us writer) = (b', .ok (.count n)) :=
  ask_eq (bind_eq_ok.2 ⟨_, h, rfl⟩)

/-- Requests leave the kind of memory as it is. -/
theorem isBefore_asked (b : Backend) (now : Instant) (r : MemoryRequest) (t t' : Instant) :
    (b.ask now r).1.IsBefore t t' ↔ b.IsBefore t t' := by
  cases b with
  | process versions snapshots memory =>
    rw [ask_process]
    rfl
  | database db ttl =>
    rw [ask_database]
    rfl

/-- The memory after requests, each with what the clock reads then. -/
def after (b : Backend) (rs : List (Instant × MemoryRequest)) : Backend :=
  rs.foldl (fun b r => (b.ask r.1 r.2).1) b

theorem isBefore_after (b : Backend) (rs : List (Instant × MemoryRequest)) (t t' : Instant) :
    (b.after rs).IsBefore t t' ↔ b.IsBefore t t' := by
  induction rs generalizing b with
  | nil => rfl
  | cons r rs ih => exact (ih (b.ask r.1 r.2).1).trans (b.isBefore_asked r.1 r.2 t t')

/-- A first write is read back until it expires. -/
theorem Vacant.read_back {b : Backend} {c : String} {w : Write} {now : Instant} (h : b.Vacant c)
    (hcalendar : (w.startedAt.add? b.ttl).isSome) (hvalues : b.CanKeep w.updates)
    (hkept : b.Keeps w now) :
    b.askAll [(w.startedAt, .set c w.contactId w.updates w.writer), (now, .get c)] =
      [.ok (.count w.updates.length),
          .ok (.facts (merge (bucketAfter .tools [w]) (bucketAfter .extraction [w])))] := by
  obtain ⟨b', hset, halike, hwritten⟩ :=
    h.written.setMemory (w := w) (by rintro t ⟨⟩) hcalendar hvalues
  have hget :=
    hwritten.getMemory fun t ht => (halike.isBefore now t).2 (hkept t (by rwa [halike.ttl] at ht))
  rw [askAll, asked_set hset, askAll, asked_get hget, askAll]
  rfl

end Dialogue.Live.Backend
