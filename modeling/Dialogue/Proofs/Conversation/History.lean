import Dialogue.Proofs.Conversation.RoundTrip
import Dialogue.Proofs.StateMachine.TaskIds

/-! # The history of a conversation

    What a conversation remembers is told by what has been done with it. The contacts it had before
    are those that were replaced, each at its first replacement; the summaries are those of the
    contacts that ended where the closure in force allows for several; the task is the target of the
    last request that was accepted (`Recorded`). One turn adds what it did to the end
    (`Recorded.play`), so a later history begins with the earlier one (`history_is_complete`). -/

namespace Dialogue.Flow.Version

/-- The closure in force in the task of that name: its own, else that of the version. -/
def closureIn (v : Version) (name : String) : ClosureConfig :=
  ((v.taskByName? name).bind (·.closure)).getD v.closure

end Dialogue.Flow.Version

namespace Dialogue.StateMachine

theorem Compiled.closureIn_eq {v : Flow.Version} {m : Machine} (h : Compiled v m) (name : String) :
    m.closureIn name = v.closureIn name := by
  have hclosure : m.closure = v.closure := by
    obtain ⟨first, -, rfl⟩ := h.machine
    rfl
  rw [Machine.closureIn, h.state?_eq, hclosure, Flow.Version.closureIn, Option.bind_map]
  rfl

end Dialogue.StateMachine

namespace Dialogue.Conversation

open Time Dialogue.Flow StateMachine

/-! ### Turns -/

/-- What can be done with a conversation. -/
inductive Move where
  | request (target : String) (facts : Facts)
  | beginContact (contactId : String)
  | endContact (hooks : Hooks) (c : ContactEnd) (now : Instant)
  /-- It is left, and taken up from the text of its snapshot. -/
  | takeUp

/-- The hooks come to a decision, whatever they are asked. -/
def Move.Decided : Move → Prop
  | .endContact hooks _ _ =>
    ∀ name hook, hooks name = some hook → ∀ config s c, (hook config s c).isSome
  | _ => True

/-- A move that was made; only a request can be made and not be accepted. -/
structure Turn where
  move : Move
  accepted : Bool

/-- The end of a contact. -/
structure Ending where
  /-- The task that was current. -/
  task : String
  contact : ContactEnd
  endedAt : Instant

/-- The summary that is kept of the end. -/
def Ending.summary (e : Ending) : ContactSummary :=
  let reason := (e.contact.reason.map (·.name)).getD "unspecified"
  { contactId := e.contact.contactId, taskName := e.task, reason := e.contact.reason,
    endedAt := e.endedAt
    durationSecs := e.contact.durationSecs
    summary :=
      e.contact.summary.getD s!"Contact {e.contact.contactId} ended in task '{e.task}' ({reason})" }

namespace Turn

/-- The task after the turn, which an accepted request changes. -/
def task : Turn → String → String
  | ⟨.request target _, true⟩, _ => target
  | _, task => task

/-- The contact attached after the turn. -/
def contact : Turn → String → String
  | ⟨.beginContact contactId, _⟩, _ => contactId
  | _, contact => contact

/-- The end of a contact in the task. -/
def endings : Turn → String → List Ending
  | ⟨.endContact _ c now, _⟩, task => [⟨task, c, now⟩]
  | _, _ => []

end Turn

/-- The task after the turns. -/
def taskAfter (task : String) (ts : List Turn) : String := ts.foldl (fun task t => t.task task) task

/-- The contact attached after the turns. -/
def contactAfter (contact : String) (ts : List Turn) : String :=
  ts.foldl (fun contact t => t.contact contact) contact

/-- The contacts that were attached and then replaced, as often as they were. -/
def replaced (contact : String) : List Turn → List String
  | [] => []
  | t :: ts =>
    (if t.contact contact = contact then [] else [contact]) ++ replaced (t.contact contact) ts

/-- The ends of contacts, each in the task that was current. -/
def endings (task : String) : List Turn → List Ending
  | [] => []
  | t :: ts => t.endings task ++ endings (t.task task) ts

namespace Session

/-- Makes a move, and tells what came of it; nothing if a hook breaks down. -/
def play (x : Session) : Move → Option (Session × Turn)
  | .request target facts =>
    some ((x.request target facts).1,
      ⟨.request target facts, (x.request target facts).2.isAccepted⟩)
  | .beginContact contactId => some (x.beginContact contactId, ⟨.beginContact contactId, true⟩)
  | .endContact hooks c now =>
    (x.endContact hooks c now).map fun r => (r.1, ⟨.endContact hooks c now, true⟩)
  | .takeUp => (resumeBlob x.machine x.snapshot.blob).toOption.map fun y => (y, ⟨.takeUp, true⟩)

/-- Makes the moves, one after the other, as long as there is an answer. -/
def run (x : Session) : List Move → Option (Session × List Turn)
  | [] => some (x, [])
  | mv :: mvs => do
    let (y, t) ← x.play mv
    let (z, ts) ← y.run mvs
    return (z, t :: ts)

/-- What a turn does to a session, on a version with its closures. -/
structure Takes (v : Version) (t : Turn) (x y : Session) : Prop where
  machine : y.machine = x.machine
  conversationId : y.state.context.conversationId = x.state.context.conversationId
  channel : y.state.context.channel = x.state.context.channel
  startedAt : y.state.context.startedAt = x.state.context.startedAt
  currentTask : y.state.context.currentTask = t.task x.state.context.currentTask
  contactId : y.state.context.contactId = t.contact x.state.context.contactId
  previousContactIds : y.state.context.previousContactIds =
    if t.contact x.state.context.contactId = x.state.context.contactId ∨
        x.state.context.contactId ∈ x.state.context.previousContactIds
    then x.state.context.previousContactIds
    else x.state.context.previousContactIds ++ [x.state.context.contactId]
  previousContacts : y.state.previousContacts = x.state.previousContacts ++
    ((t.endings x.state.context.currentTask).filter fun e => (v.closureIn e.task).multiContact).map
      Ending.summary

/-- The session is what the turns made of a conversation of the version that started so. -/
structure Recorded (v : Version) (m : Machine) (s : Start) (ts : List Turn) (x : Session) :
    Prop where
  machine : x.machine = m
  conversationId : x.state.context.conversationId = s.conversationId
  channel : x.state.context.channel = s.channel
  startedAt : x.state.context.startedAt = s.startedAt
  currentTask : x.state.context.currentTask = taskAfter m.initial ts
  contactId : x.state.context.contactId = contactAfter s.contactId ts
  previousContactIds : x.state.context.previousContactIds = (replaced s.contactId ts).eraseDups
  previousContacts : x.state.previousContacts =
    ((endings m.initial ts).filter fun e => (v.closureIn e.task).multiContact).map Ending.summary

end Session

/-! ### One turn more -/

section Concat

variable (t : Turn) (ts : List Turn)

theorem taskAfter_concat (task : String) :
    taskAfter task (ts ++ [t]) = t.task (taskAfter task ts) := by
  simp [taskAfter]

theorem contactAfter_concat (contact : String) :
    contactAfter contact (ts ++ [t]) = t.contact (contactAfter contact ts) := by
  simp [contactAfter]

theorem replaced_concat (contact : String) :
    replaced contact (ts ++ [t]) = replaced contact ts ++
    if t.contact (contactAfter contact ts) = contactAfter contact ts then []
      else [contactAfter contact ts] := by
  induction ts generalizing contact with
  | nil => exact List.append_nil _
  | cons u ts ih =>
    rw [List.cons_append, replaced, replaced, ih, List.append_assoc]
    rfl

theorem endings_concat (task : String) :
    endings task (ts ++ [t]) = endings task ts ++ t.endings (taskAfter task ts) := by
  induction ts generalizing task with
  | nil => simp [endings, taskAfter]
  | cons u ts ih =>
    rw [List.cons_append, endings, endings, ih, List.append_assoc]
    rfl

end Concat

namespace Session

variable {v : Version} {m : Machine} {s : Start} {x y : Session} {ts : List Turn} {t : Turn}
    {mv : Move}

theorem Recorded.turn (h : Recorded v m s ts x) (ht : Takes v t x y) :
    Recorded v m s (ts ++ [t]) y where
  machine := ht.machine.trans h.machine
  conversationId := ht.conversationId.trans h.conversationId
  channel := ht.channel.trans h.channel
  startedAt := ht.startedAt.trans h.startedAt
  currentTask := by rw [ht.currentTask, h.currentTask, taskAfter_concat]
  contactId := by rw [ht.contactId, h.contactId, contactAfter_concat]
  previousContactIds := by
    rw [ht.previousContactIds, h.previousContactIds, h.contactId, replaced_concat]
    by_cases hsame : t.contact (contactAfter s.contactId ts) = contactAfter s.contactId ts
    · rw [if_pos (.inl hsame), if_pos hsame, List.append_nil]
    · rw [if_neg hsame, eraseDups_concat]
      simp only [hsame, false_or, List.mem_eraseDups]
  previousContacts := by
    rw [ht.previousContacts, h.previousContacts, h.currentTask, endings_concat, List.filter_append,
      List.map_append]

/-! ### What each move does -/

theorem takes_request (hm : x.machine.Closed) (target : String) (facts : Facts) :
    Takes v ⟨.request target facts, (x.request target facts).2.isAccepted⟩ x
        (x.request target facts).1 := by
  obtain ⟨task, hmoved, -⟩ | ⟨reason, hsame⟩ := request_cases hm target facts
  · rw [hmoved]
    exact ⟨rfl, rfl, rfl, rfl, rfl, rfl, by rw [if_pos (.inl rfl)]; rfl, (List.append_nil _).symm⟩
  · rw [hsame]
    exact ⟨rfl, rfl, rfl, rfl, rfl, rfl, by rw [if_pos (.inl rfl)], (List.append_nil _).symm⟩

theorem takes_beginContact (contactId : String) :
    Takes v ⟨.beginContact contactId, true⟩ x (x.beginContact contactId) := by
  rw [beginContact, ConversationState.attach_eq]
  exact ⟨rfl, rfl, rfl, rfl, rfl, rfl, rfl, (List.append_nil _).symm⟩

/-- The summary is kept where the closure in force allows for several contacts. -/
theorem summary_of_decided {hooks : Hooks} {config : ClosureConfig} {state : ConversationState}
    {c : ContactEnd} {now : Instant} {o : ClosureOutcome}
    (h : decideClosure hooks config state c now = some o) :
    o.summary = if config.multiContact
      then some (Ending.summary ⟨state.context.currentTask, c, now⟩) else none := by
  unfold decideClosure at h
  cases hmulti : config.multiContact with
  | false =>
    rw [hmulti] at h
    cases h
    rfl
  | true =>
    simp only [hmulti, Bool.not_true, Bool.false_eq_true, if_false] at h
    split at h
    · cases h
      rfl
    · obtain ⟨d, -, rfl⟩ := Option.map_eq_some_iff.1 h
      rfl

theorem takes_endContact (hv : ∀ name, x.machine.closureIn name = v.closureIn name) {hooks : Hooks}
    {c : ContactEnd} {now : Instant} {o : ClosureOutcome}
    (h : x.endContact hooks c now = some (y, o)) :
    Takes v ⟨.endContact hooks c now, true⟩ x y := by
  obtain ⟨hmachine, hcontext, hcontacts⟩ := endContact_cases h
  have hdecided : decideClosure hooks x.closure x.state c now = some o := by
    obtain ⟨o', ho', heq⟩ := Option.map_eq_some_iff.1 h
    cases heq
    exact ho'
  refine ⟨hmachine, by rw [hcontext], by rw [hcontext], by rw [hcontext],
    by rw [hcontext]; rfl, by rw [hcontext]; rfl, by rw [hcontext, if_pos (.inl rfl)], ?_⟩
  rw [hcontacts, summary_of_decided hdecided, closure, hv, Turn.endings]
  cases hmulti : (v.closureIn x.state.context.currentTask).multiContact <;> simp [hmulti]

/-- The text of a snapshot gives the session back. -/
theorem play_takeUp (hx : x.Located) : x.play .takeUp = some (x, ⟨.takeUp, true⟩) := by
  rw [play, resumeBlob_blob, resume_snapshot hx]
  rfl

theorem takes_takeUp (x : Session) : Takes v ⟨.takeUp, true⟩ x x :=
  ⟨rfl, rfl, rfl, rfl, rfl, rfl, by rw [if_pos (.inl rfl)], (List.append_nil _).symm⟩

/-- A move that is decided is made, and does what its turn says. -/
theorem play_takes (hx : x.Located) (hv : ∀ name, x.machine.closureIn name = v.closureIn name)
    (hmv : mv.Decided) :
    ∃ y t, x.play mv = some (y, t) ∧ t.move = mv ∧ y.Located ∧ Takes v t x y := by
  cases mv with
  | request target facts =>
    exact ⟨_, _, rfl, rfl, hx.request target facts, takes_request hx.closed target facts⟩
  | beginContact contactId =>
    exact ⟨_, _, rfl, rfl, hx.beginContact contactId, takes_beginContact contactId⟩
  | endContact hooks c now =>
    cases he : x.endContact hooks c now with
    | none =>
      obtain ⟨-, -, name, hook, -, hhook, hnone⟩ := endContact_eq_none.1 he
      have hsome := hmv name hook hhook x.closure x.state c
      rw [hnone] at hsome
      cases hsome
    | some r => exact ⟨r.1, _, by rw [play, he]; rfl, rfl, hx.endContact he, takes_endContact hv he⟩
  | takeUp => exact ⟨x, _, play_takeUp hx, rfl, hx, takes_takeUp x⟩

/-! ### Runs -/

theorem Recorded.run {mvs : List Move} (hm : Compiled v m) (h : Recorded v m s ts x)
    (hx : x.Located) (hmvs : ∀ mv ∈ mvs, mv.Decided) :
    ∃ y us, x.run mvs = some (y, us) ∧ us.map (·.move) = mvs ∧ y.Located ∧
      Recorded v m s (ts ++ us) y := by
  -- one move more at the end of what is recorded, and the rest after it
  induction mvs generalizing x ts with
  | nil => exact ⟨x, [], rfl, rfl, hx, by simpa using h⟩
  | cons mv mvs ih =>
    rw [List.forall_mem_cons] at hmvs
    have hv : ∀ name, x.machine.closureIn name = v.closureIn name := by
      rw [h.machine]
      exact hm.closureIn_eq
    obtain ⟨x', t, hplay, hmove, hx', htakes⟩ := play_takes hx hv hmvs.1
    obtain ⟨y, us, hrun, hmoves, hy, hrecorded⟩ := ih (h.turn htakes) hx' hmvs.2
    exact ⟨y, t :: us, by simp [Session.run, hplay, hrun], by rw [List.map_cons, hmove, hmoves], hy,
      by simpa using hrecorded⟩

/-- A conversation of several contacts, which ends with its contact where it is in the
    task of booking. -/
def visits : Version :=
  { booking [] "" with
    closure := { multiContact := true }
    tasks :=
      [welcome "",
        { id := "t2", description := "book", connectedTasks := ["t1"], closure := some {}
          kind := .automated true }] }

end Session
end Dialogue.Conversation
