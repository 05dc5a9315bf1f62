import Dialogue.Proofs.Live.Holdings
import Dialogue.Proofs.Live.Settled
import Dialogue.Proofs.Memory.GuardFacts

/-! # Conversations whose stores work

    Where the stores work (`Stores.Usable`) and a conversation is live, a tool's write is made, a
    request is answered by what guards see, and both leave the conversation live
    (`Manager.Serving`); a contact starts one that is not there (`Startable.begin`). -/

namespace Dialogue.Live

open Time Dialogue.Flow Conversation StateMachine Memory

/-- What a live conversation needs of the stores does not fail. -/
structure Stores.Usable (s : Stores) : Prop where
  readsMemory : s.faults .getMemory = none
  writesMemory : s.faults .setMemory = none
  putsSnapshots : s.faults .putSnapshot = none
  serves : s.backend.Serves

theorem Stores.Usable.setMemory {s : Stores} (h : s.Usable) {c contactId : String}
    {us : List Update} {writer : Writer} {b : Backend} {n : Option Nat}
    (hset : s.backend.setMemory c contactId us writer s.clock = .ok (b, n)) :
    s.setMemory c contactId us writer = ({ s.relogged (.setMemory :: s.log) with backend := b },
        .ok n) := by
  simp only [Stores.setMemory, attempt, h.writesMemory, hset]
  rfl

namespace Manager

/-- The conversation is live, and its stores work. -/
structure Serving (w : Manager) (c : String) (x : Session) : Prop where
  live : w.actors.get? c = some (.live x)
  id : x.conversationId = c
  stores : w.stores.Usable

variable {w : Manager} {c target contactId name : String} {x : Session} {us : List Update}
    {b : Backend}
  {expiry : Option Instant} {facts : Facts}

/-- A write of declared variables is made. -/
theorem Serving.update (h : w.Serving c x) (hdeclared : ∀ u ∈ us, x.machine.declares u.variableId)
    (hset : w.stores.backend.setMemory c contactId us (.tool name) w.stores.clock =
        .ok (b, some us.length)) :
    ∃ w', w.call (.update c contactId us (.tool name)) = (w', .ok (.count us.length)) ∧
      w'.Serving c x ∧ w'.stores.backend = b ∧ w'.stores.clock = w.stores.clock := by
  have hnone : x.machine.undeclared (us.map (·.variableId)) = [] := by
    refine Machine.undeclared_eq_nil ?_
    simpa using hdeclared
  have hsend : w.call (.update c contactId us (.tool name)) =
      w.send c (.updateMemory contactId us (.tool name)) :=
    command_live h.live _
  rw [hsend, send, h.live]
  simp only [Actor.handle, Actor.handleUpdate, hnone, h.id, h.stores.setMemory hset]
  refine ⟨_, rfl, ⟨?_, h.id, { h.stores with serves := ?_ }⟩, rfl, rfl⟩
  · exact (Dict.get?_insert ..).trans (if_pos rfl)
  · exact (Backend.setMemory_spares hset).serves h.stores.serves

/-- One whose expiry lies beyond the calendar breaks the actor down. -/
theorem Serving.update_beyond (h : w.Serving c x)
    (hdeclared : ∀ u ∈ us, x.machine.declares u.variableId)
    (hset : w.stores.backend.setMemory c contactId us (.tool name) w.stores.clock = .ok (b, none)) :
    ∃ w', w.call (.update c contactId us (.tool name)) = (w', .error (.conversationClosed c)) ∧
      w'.actors.get? c = some .dead := by
  have hnone : x.machine.undeclared (us.map (·.variableId)) = [] := by
    refine Machine.undeclared_eq_nil ?_
    simpa using hdeclared
  have hsend : w.call (.update c contactId us (.tool name)) =
      w.send c (.updateMemory contactId us (.tool name)) :=
    command_live h.live _
  rw [hsend, send, h.live]
  simp only [Actor.handle, Actor.handleUpdate, hnone, h.id, h.stores.setMemory hset]
  exact ⟨_, rfl, (Dict.get?_insert ..).trans (if_pos rfl)⟩

/-- A request is answered by what is read, and leaves the memory as it was read. -/
theorem Serving.request_reading (h : w.Serving c x) (hclosed : x.machine.Closed) {bucket : Bucket}
    (hget : w.stores.backend.getMemory c w.stores.clock = .ok (b, bucket)) (target : String) :
    ∃ w', w.call (.request c target) = (w', .ok (.transition (x.request target bucket.facts).2)) ∧
      w'.Serving c (x.request target bucket.facts).1 ∧
      (∀ {expiry facts}, b.Shows c expiry facts → w'.stores.backend.Shows c expiry facts) ∧
      b.Alike w'.stores.backend ∧ w'.stores.clock = w.stores.clock := by
  have hserves : b.Serves := (Backend.getMemory_spares hget).serves h.stores.serves
  have hstores : w.stores.getMemory c =
      ({ w.stores.relogged (.getMemory :: w.stores.log) with backend := b }, .ok bucket) := by
    simp only [Stores.getMemory, Stores.attempt, h.stores.readsMemory, hget]
    rfl
  have hsend : w.call (.request c target) = w.send c (.request target) := command_live h.live _
  rw [hsend, send, h.live]
  simp only [Actor.handle, Actor.handleRequest, h.id, hstores]
  rcases Session.request_cases hclosed target bucket.facts with ⟨task, hrequest, -⟩ | ⟨reason,
    hrequest⟩
  · -- accepted: the snapshot of the session that has moved is put
    obtain ⟨b', hput⟩ := hserves.puts c (x.moveTo target).snapshot
    have hcommit :
      ({ w.stores.relogged (.getMemory :: w.stores.log) with backend := b } : Stores).commit x
      (x.moveTo target)
        (.transition (.accepted task)) =
          ({ w.stores.relogged (.putSnapshot :: .getMemory :: w.stores.log) with backend := b' },
          .goOn (x.moveTo target) (.ok (.transition (.accepted task)))) := by
      have hid : (x.moveTo target).conversationId = c := h.id
      simp only [Stores.commit, Stores.persist, hid, Stores.putSnapshot, Stores.attempt,
        Stores.relogged, h.stores.putsSnapshots, hput]
    rw [hrequest]
    simp only [hcommit]
    refine ⟨_, rfl, ⟨?_, h.id, { h.stores with serves := ?_ }⟩,
      fun hshows => hshows.putSnapshot hput,
      Backend.alike_putSnapshot hput, rfl⟩
    · exact (Dict.get?_insert ..).trans (if_pos rfl)
    · exact (Backend.putSnapshot_eq hput).2.2.1 hserves
  · rw [hrequest]
    refine ⟨_, rfl, ⟨?_, h.id, { h.stores with serves := hserves }⟩, fun hshows => hshows,
      .refl b, rfl⟩
    exact (Dict.get?_insert ..).trans (if_pos rfl)

/-- Until the memory expires, a request is answered by what guards see. -/
theorem Serving.request (h : w.Serving c x) (hclosed : x.machine.Closed)
    (hshows : w.stores.backend.Shows c expiry facts)
    (hnow : ∀ t ∈ expiry, w.stores.backend.IsBefore w.stores.clock t) (target : String) :
    ∃ w', w.call (.request c target) = (w', .ok (.transition (x.request target facts).2)) ∧
      w'.Serving c (x.request target facts).1 ∧ w'.stores.backend.Shows c expiry facts ∧
      w.stores.backend.Alike w'.stores.backend ∧ w'.stores.clock = w.stores.clock := by
  obtain ⟨bucket, hget, rfl⟩ := hshows.getMemory hnow
  obtain ⟨w', hcall, hserving, hshows', halike, hclock⟩ := h.request_reading hclosed hget target
  exact ⟨w', hcall, hserving, hshows' hshows, halike, hclock⟩

/-- A contact can start the conversation on the machine: nothing is known of it, and
    the stores work. -/
structure Startable (w : Manager) (n : NewContact) (m : Machine) : Prop where
  absent : w.Absent n.conversationId
  machine : (w.definition n.flowId n.versionId).2 = .ok m
  mailbox : w.mailboxSize ≤ largestMailbox
  readsSnapshots : w.stores.faults .getSnapshot = none
  stores : w.stores.Usable

/-- A manager that has just been made starts it on the machine of the version it reads. -/
theorem startable_fresh {s : Stores} {n : NewContact} {v : Version} {m : Machine}
    (hv : compile v = .ok m) (hversion : s.backend.getVersion n.flowId n.versionId = .ok (some v))
    (hreadsVersions : s.faults .getVersion = none) (hstored : s.stored n.conversationId = none)
    (hreads : s.faults .getSnapshot = none) (hstores : s.Usable) (hooks : Hooks) {size : Nat}
    (hsize : max 1 size ≤ largestMailbox) : (fresh s hooks size).Startable n m where
  absent := ⟨rfl, hstored⟩
  machine := by
    simp [definition, fresh, Stores.getVersion, Stores.attempt, hreadsVersions, hversion,
      compileRead, hv, Except.mapError]
  mailbox := hsize
  readsSnapshots := hreads
  stores := hstores

/-- It is live then, in the first task of the machine, and guards see what they saw before. -/
theorem Startable.begin {n : NewContact} {m : Machine} (h : w.Startable n m)
    (hshows : w.stores.backend.Shows n.conversationId expiry facts) :
    ∃ w', w.call (.begin n) = (w', .ok (.task (n.start w.stores.clock m).currentTask?)) ∧
      w'.Serving n.conversationId (n.start w.stores.clock m) ∧
        w'.stores.backend.Shows n.conversationId expiry facts ∧
      w.stores.backend.Alike w'.stores.backend ∧ w'.stores.clock = w.stores.clock := by
  obtain ⟨log, hfind⟩ : ∃ log, w.find n.conversationId = (w.relogged log, .ok none) := by
    obtain ⟨log, hf | ⟨e, he, -⟩⟩ := find_absent h.absent
    · exact ⟨log, hf⟩
    · obtain ⟨r, hr⟩ := h.stores.serves.reads n.conversationId
      simp [Stores.getSnapshot, Stores.attempt, h.readsSnapshots, hr] at he
  -- the machine is looked up, and the session registered
  obtain ⟨w₁, hdefinition, hconsulted, log₁, hstores⟩ :
    ∃ w₁, (w.relogged log).definition n.flowId n.versionId = (w₁, .ok m) ∧
      (w.relogged log).Consulted w₁ ∧ ∃ log₁, w₁.stores = w.stores.relogged log₁ := by
    obtain ⟨log', hagree⟩ := w.definition_agree log n.flowId n.versionId
    obtain ⟨log₁, hlog₁⟩ := (w.relogged log).definition_relogged n.flowId n.versionId
    refine ⟨_, Prod.ext rfl ?_, (w.relogged log).definition_consulted n.flowId n.versionId,
      log₁, hlog₁⟩
    rw [hagree]
    exact h.machine
  have hspawn : w₁.spawn (n.start w.stores.clock m) =
      ({ w₁ with actors := w₁.actors.insert n.conversationId (.live (n.start w.stores.clock m)) },
          .ok n.conversationId) := by
    have hnone : w₁.actors.get? n.conversationId = none := by
      rw [hconsulted.actors]
      exact h.absent.actor
    have hsize : w₁.mailboxSize ≤ largestMailbox := by
      rw [hconsulted.mailboxSize]
      exact h.mailbox
    rw [spawn_new (x := n.start w.stores.clock m) hnone, if_pos hsize]
    rfl
  have hclock : w₁.stores.clock = w.stores.clock := by rw [hstores]; rfl
  -- its actor begins the contact, which puts the snapshot
  obtain ⟨b, hput⟩ := h.stores.serves.puts n.conversationId (n.start w.stores.clock m).snapshot
  have hcommit : w₁.stores.commit (n.start w.stores.clock m) (n.start w.stores.clock m)
      (.task (n.start w.stores.clock m).currentTask?) =
        ({ w.stores.relogged (.putSnapshot :: log₁) with backend := b },
        .goOn (n.start w.stores.clock m)
            (.ok (.task (n.start w.stores.clock m).currentTask?))) := by
    have hid : (n.start w.stores.clock m).conversationId = n.conversationId := rfl
    simp only [Stores.commit, Stores.persist, hid, hstores, Stores.putSnapshot, Stores.attempt,
      Stores.relogged, h.stores.putsSnapshots, hput]
  rw [call, findOrStart, hfind]
  simp only [hdefinition, hclock, hspawn, send, Dict.get?_insert, if_true, Actor.handle,
    beginContact_start, hcommit]
  refine ⟨_, rfl, ⟨?_, rfl, { h.stores with serves := ?_ }⟩, hshows.putSnapshot hput,
    Backend.alike_putSnapshot hput, rfl⟩
  · exact (Dict.get?_insert ..).trans (if_pos rfl)
  · exact (Backend.putSnapshot_eq hput).2.2.1 h.stores.serves

end Manager
end Dialogue.Live
