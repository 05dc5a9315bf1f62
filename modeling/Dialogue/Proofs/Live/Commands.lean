import Dialogue.Proofs.Conversation.Steps
import Dialogue.Proofs.Live.Stored

/-! # What comes of a command

    An actor that handles a command either keeps its session, or goes on with a changed one
    whose snapshot has been stored, or stops, or breaks down (`Handled`). It acknowledges a
    change only where there is one. -/

namespace Dialogue.Live

open Time Dialogue.Flow Conversation StateMachine Memory

/-- The answer says that the command has changed the session. -/
def Command.Acknowledged : Command → Answer → Prop
  | .request _, .ok (.transition (.accepted _)) => True
  | .beginContact _, .ok _ => True
  | .endContact _, .ok _ => True
  | _, _ => False

/-- The session after a command that changes it, and the reply. -/
inductive Changes (hooks : Hooks) (now : Instant) (x : Session) : Command → Session → Reply → Prop
  | moved {target : String} {task : TaskView} : (x.moveTo target).currentTask? = some task →
      Changes hooks now x (.request target) (x.moveTo target) (.transition (.accepted task))
  | attached {contactId : String} :
      Changes hooks now x (.beginContact contactId) (x.beginContact contactId)
      (.task (x.beginContact contactId).currentTask?)
  | ended {c : ContactEnd} {y : Session} {o : ClosureOutcome} :
      x.endContact hooks c now = some (y, o) →
      o.decision = .keepAlive → Changes hooks now x (.endContact c) y (.closure o)

/-- A change stays with the conversation and the machine. -/
theorem changes_keep {hooks : Hooks} {now : Instant} {x y : Session} {c : Command} {r : Reply}
    (h : Changes hooks now x c y r) :
    y.conversationId = x.conversationId ∧ y.machine = x.machine := by
  cases h with
  | moved _ => exact ⟨rfl, rfl⟩
  | attached => exact ⟨x.conversationId_beginContact _, rfl⟩
  | ended hend _ =>
    obtain ⟨hmachine, hcontext, -⟩ := Session.endContact_cases hend
    exact ⟨congrArg Context.conversationId hcontext, hmachine⟩

/-- The command makes the actor break down. -/
inductive BreaksDown (hooks : Hooks) (s : Stores) (x : Session) : Command → Prop
  /-- The hook that the closure names breaks down. -/
  | hook {c : ContactEnd} {name : String} {hook : Hook} : x.closure.hook = some name →
      hooks name = some hook →
      hook x.closure x.state c = none → BreaksDown hooks s x (.endContact c)
  /-- The calendar ends before the expiry of the memory. -/
  | expiry {contactId : String} {us : List Update} {writer : Writer} :
      (s.setMemory x.conversationId contactId us writer).2 = .ok none →
      BreaksDown hooks s x (.updateMemory contactId us writer)

/-- What comes of a command. -/
inductive Handled (hooks : Hooks) (s : Stores) (x : Session) : Command → Stores × Reaction → Prop
  | kept {c : Command} {t : Stores} {a : Answer} : s.Same t → ¬ c.Acknowledged a →
      (∀ id o reason, a ≠ .error (.cleanupFailed id o reason)) → Handled hooks s x c (t, .goOn x a)
  | changed {c : Command} {t : Stores} {y : Session} {r : Reply} : Changes hooks s.clock x c y r →
      s.Stored t y → Handled hooks s x c (t, .goOn y (.ok r))
  /-- The conversation has been closed; what could not be removed of it is still there. -/
  | closed {c : ContactEnd} {t : Stores} {a : Answer} {o : ClosureOutcome} :
      o.decision = .close → s.Keeps t →
      (∀ k, t.stored k = s.stored k ∨ k = x.conversationId ∧ t.stored k = none) →
      (a = .ok (.closure o) ∧ t.stored x.conversationId = none ∨
        ∃ reason, a = .error (.cleanupFailed x.conversationId o reason)) →
      Handled hooks s x (.endContact c) (t, .stop a)
  | shutDown : Handled hooks s x .shutdown (s, .stop (.ok (.unloaded true)))
  | brokeDown {c : Command} {t : Stores} : s.Same t → BreaksDown hooks s x c →
      Handled hooks s x c (t, .breakDown)

namespace Stores

/-- A change is stored, or it does not count. -/
theorem commit_cases (s : Stores) (before after : Session) (r : Reply) :
    (∃ t reason, s.commit before after r = (t, .goOn before (.error (.snapshot reason))) ∧
        s.Same t) ∨
      ∃ t, s.commit before after r = (t, .goOn after (.ok r)) ∧ s.Stored t after := by
  unfold commit
  rcases s.persist_cases after with ⟨reason, hr, hsame⟩ | ⟨hr, hstored⟩
  · cases hp : s.persist after with
    | mk t e =>
      rw [hp] at hr hsame
      obtain rfl : e = _ := hr
      exact .inl ⟨t, reason, rfl, hsame⟩
  · cases hp : s.persist after with
    | mk t e =>
      rw [hp] at hr hstored
      obtain rfl : e = _ := hr
      exact .inr ⟨t, rfl, hstored⟩

/-- Clearing removes the snapshot of the conversation at most, and says if it could not. -/
theorem clear_cases (s : Stores) (c : String) : s.Keeps (s.clear c).1 ∧
    (∀ k, (s.clear c).1.stored k = s.stored k ∨ k = c ∧ (s.clear c).1.stored k = none) ∧
    ((s.clear c).2 = [] → (s.clear c).1.stored c = none) := by
  have hmemory := s.deleteMemory_same c
  -- only the second deletion touches snapshots
  rcases (s.deleteMemory c).1.deleteSnapshot_cases c with ⟨reason, hr, hsame⟩ | ⟨-, hkeeps, hstored⟩
  · have hall := hmemory.trans hsame
    refine ⟨hall.toKeeps, fun k => .inl (hall.stored k), ?_⟩
    intro h
    simp [clear, hr] at h
  · refine ⟨hmemory.toKeeps.trans hkeeps, ?_, ?_⟩
    · intro k
      have hk : (s.clear c).1.stored k = if k = c then none else (s.deleteMemory c).1.stored k :=
        hstored k
      rw [hk]
      split
      · rename_i h
        exact .inr ⟨h, rfl⟩
      · exact .inl (hmemory.stored k)
    · intro _
      exact (hstored c).trans (if_pos rfl)

end Stores

namespace Actor

variable {hooks : Hooks} {s : Stores} {x : Session}

theorem handled_request (hx : x.machine.Closed) (target : String) :
    Handled hooks s x (.request target) (handleRequest s x target) := by
  have hread := s.getMemory_same x.conversationId
  unfold handleRequest
  cases hget : s.getMemory x.conversationId with
  | mk t r =>
    rw [hget] at hread
    -- memory is read first, and its failure ends the request
    cases r with
    | error e => exact .kept hread (by simp [Command.Acknowledged]) (by simp)
    | ok facts =>
      simp only
      rcases Session.request_cases hx target facts.facts with ⟨task, hreq, htask⟩ | ⟨reason, hreq⟩
      · rw [hreq]
        simp only
        rcases t.commit_cases x (x.moveTo target) (.transition (.accepted task)) with
          ⟨u, reason, hc, hsame⟩ | ⟨u, hc, hstored⟩
        -- accepted, but not stored: the session stays
        · rw [hc]
          exact .kept (hread.trans hsame) (by simp [Command.Acknowledged]) (by simp)
        · rw [hc]
          refine .changed (.moved htask) ⟨hread.toKeeps.trans hstored.toKeeps, ?_⟩
          intro c
          rw [hstored.stored, hread.stored]
      -- rejected
      · rw [hreq]
        exact .kept hread (by simp [Command.Acknowledged]) (by simp)

theorem handled_update (contactId : String) (us : List Update) (writer : Writer) :
    Handled hooks s x (.updateMemory contactId us writer)
        (handleUpdate s x contactId us writer) := by
  have hset := s.setMemory_same x.conversationId contactId us writer
  unfold handleUpdate
  split
  · exact .kept (.refl s) (by simp [Command.Acknowledged]) (by simp)
  · split
    · rename_i h
      rw [h] at hset
      exact .kept hset (by simp [Command.Acknowledged]) (by simp)
    · rename_i h
      rw [h] at hset
      exact .brokeDown hset (.expiry (by rw [h]))
    · rename_i h
      rw [h] at hset
      exact .kept hset (by simp [Command.Acknowledged]) (by simp)

theorem handled_end (c : ContactEnd) :
    Handled hooks s x (.endContact c) (handleEnd hooks s x c) := by
  unfold handleEnd
  cases hend : x.endContact hooks c s.clock with
  | none =>
    -- only a hook keeps the end from coming to a decision
    obtain ⟨-, -, name, hook, hname, hhook, hnone⟩ := Session.endContact_eq_none.1 hend
    exact .brokeDown (.refl s) (.hook hname hhook hnone)
  | some r =>
    obtain ⟨y, o⟩ := r
    simp only
    cases hd : o.decision with
    | keepAlive =>
      simp only
      rcases s.commit_cases x y (.closure o) with ⟨t, reason, hc, hsame⟩ | ⟨t, hc, hstored⟩
      · rw [hc]
        exact .kept hsame (by simp [Command.Acknowledged]) (by simp)
      · rw [hc]
        exact .changed (.ended hend hd) hstored
    | close =>
      obtain ⟨hkeeps, hothers, hgone⟩ := s.clear_cases x.conversationId
      simp only
      split
      · rename_i h
        rw [h] at hkeeps hothers hgone
        exact .closed hd hkeeps hothers (.inl ⟨rfl, hgone rfl⟩)
      · rename_i h
        rw [h] at hkeeps hothers
        exact .closed hd hkeeps hothers (.inr ⟨_, rfl⟩)

/-- Every command comes to one of these ends. -/
theorem handled (hx : x.machine.Closed) (c : Command) :
    Handled hooks s x c (handle hooks s x c) := by
  cases c with
  | request target => exact handled_request hx target
  | beginContact contactId =>
    simp only [handle]
    rcases s.commit_cases x (x.beginContact contactId)
        (.task (x.beginContact contactId).currentTask?) with
      ⟨t, reason, hc, hsame⟩ | ⟨t, hc, hstored⟩
    · rw [hc]
      exact .kept hsame (by simp [Command.Acknowledged]) (by simp)
    · rw [hc]
      exact .changed .attached hstored
  | endContact c => exact handled_end c
  | updateMemory contactId us writer => exact handled_update contactId us writer
  | currentTask => exact .kept (.refl s) (by simp [Command.Acknowledged]) (by simp)
  | snapshot => exact .kept (.refl s) (by simp [Command.Acknowledged]) (by simp)
  | shutdown => exact .shutDown

end Actor
end Dialogue.Live
