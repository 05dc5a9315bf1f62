import Dialogue.Proofs.Live.Calls

/-! # Runs, and the log

    A run is a list of calls with what happens to the stores in between. No operation reads the log
    of the stores, so two managers that differ in their logs alone answer every run alike
    (`answers_relogged`). -/

namespace Dialogue.Live

open Time Dialogue.Flow Conversation StateMachine Memory

/-- The stores with another log. -/
def Stores.relogged (s : Stores) (log : List Operation) : Stores := { s with log }

/-- The same result, from stores with different logs. -/
def Stores.Agree {α : Type} (r r' : Stores × α) : Prop := ∃ log, r' = (r.1.relogged log, r.2)

namespace Stores

variable (s : Stores) (log : List Operation)

theorem same_relogged : s.Same (s.relogged log) :=
  ⟨⟨fun _ _ => rfl, rfl, rfl, rfl, id⟩, fun _ => rfl⟩

/-! ### Operations -/

theorem getVersion_agree (f v : String) :
    Agree (s.getVersion f v) ((s.relogged log).getVersion f v) := by
  unfold getVersion
  cases h : s.faults .getVersion <;> simp only [attempt, relogged, h] <;> exact ⟨_, rfl⟩

theorem getSnapshot_agree (c : String) :
    Agree (s.getSnapshot c) ((s.relogged log).getSnapshot c) := by
  unfold getSnapshot
  cases h : s.faults .getSnapshot <;> simp only [attempt, relogged, h] <;> exact ⟨_, rfl⟩

theorem putSnapshot_agree (c : String) (x : Snapshot) :
    Agree (s.putSnapshot c x) ((s.relogged log).putSnapshot c x) := by
  unfold putSnapshot
  cases h : s.faults .putSnapshot with
  | some fault => simp only [attempt, relogged, h]; exact ⟨_, rfl⟩
  | none =>
    simp only [attempt, relogged, h]
    cases s.backend.putSnapshot c x <;> exact ⟨_, rfl⟩

theorem deleteSnapshot_agree (c : String) :
    Agree (s.deleteSnapshot c) ((s.relogged log).deleteSnapshot c) := by
  unfold deleteSnapshot
  cases h : s.faults .deleteSnapshot with
  | some fault => simp only [attempt, relogged, h]; exact ⟨_, rfl⟩
  | none =>
    simp only [attempt, relogged, h]
    cases s.backend.deleteSnapshot c <;> exact ⟨_, rfl⟩

theorem getMemory_agree (c : String) : Agree (s.getMemory c) ((s.relogged log).getMemory c) := by
  unfold getMemory
  cases h : s.faults .getMemory with
  | some fault => simp only [attempt, relogged, h]; exact ⟨_, rfl⟩
  | none =>
    simp only [attempt, relogged, h]
    cases s.backend.getMemory c s.clock <;> exact ⟨_, rfl⟩

theorem setMemory_agree (c contactId : String) (us : List Update) (writer : Writer) :
    Agree (s.setMemory c contactId us writer)
        ((s.relogged log).setMemory c contactId us writer) := by
  unfold setMemory
  cases h : s.faults .setMemory with
  | some fault => simp only [attempt, relogged, h]; exact ⟨_, rfl⟩
  | none =>
    simp only [attempt, relogged, h]
    cases s.backend.setMemory c contactId us writer s.clock <;> exact ⟨_, rfl⟩

theorem deleteMemory_agree (c : String) :
    Agree (s.deleteMemory c) ((s.relogged log).deleteMemory c) := by
  unfold deleteMemory
  cases h : s.faults .deleteMemory with
  | some fault => simp only [attempt, relogged, h]; exact ⟨_, rfl⟩
  | none =>
    simp only [attempt, relogged, h]
    cases s.backend.deleteMemory c <;> exact ⟨_, rfl⟩

/-! ### Commands -/

theorem commit_agree (before after : Session) (r : Reply) :
    Agree (s.commit before after r) ((s.relogged log).commit before after r) := by
  obtain ⟨log', h⟩ := s.putSnapshot_agree log after.conversationId after.snapshot
  unfold commit persist
  rw [h]
  rcases s.putSnapshot after.conversationId after.snapshot with ⟨t, _ | _⟩ <;> exact ⟨log', rfl⟩

theorem clear_agree (c : String) : Agree (s.clear c) ((s.relogged log).clear c) := by
  obtain ⟨log₁, h₁⟩ := s.deleteMemory_agree log c
  obtain ⟨log₂, h₂⟩ := (s.deleteMemory c).1.deleteSnapshot_agree log₁ c
  refine ⟨log₂, ?_⟩
  unfold clear
  simp only [h₁, h₂]

end Stores

namespace Actor

variable (hooks : Hooks) (s : Stores) (log : List Operation) (x : Session)

theorem handleRequest_agree (target : String) :
    Stores.Agree (handleRequest s x target) (handleRequest (s.relogged log) x target) := by
  obtain ⟨log', h⟩ := s.getMemory_agree log x.conversationId
  unfold handleRequest
  rw [h]
  rcases s.getMemory x.conversationId with ⟨t, e | facts⟩
  · exact ⟨log', rfl⟩
  · simp only
    split
    · exact t.commit_agree log' ..
    · exact ⟨log', rfl⟩

theorem handleUpdate_agree (contactId : String) (us : List Update) (writer : Writer) :
    Stores.Agree (handleUpdate s x contactId us writer)
        (handleUpdate (s.relogged log) x contactId us writer) := by
  obtain ⟨log', h⟩ := s.setMemory_agree log x.conversationId contactId us writer
  unfold handleUpdate
  split
  · exact ⟨log, rfl⟩
  · rw [h]
    rcases s.setMemory x.conversationId contactId us writer with ⟨t, _ | _ | _⟩ <;> exact ⟨log',
      rfl⟩

theorem handleEnd_agree (c : ContactEnd) :
    Stores.Agree (handleEnd hooks s x c) (handleEnd hooks (s.relogged log) x c) := by
  unfold handleEnd
  rw [show (s.relogged log).clock = s.clock from rfl]
  rcases x.endContact hooks c s.clock with _ | ⟨y, o⟩
  · exact ⟨log, rfl⟩
  · simp only
    cases o.decision with
    | keepAlive => exact s.commit_agree log ..
    | close =>
      obtain ⟨log', h⟩ := s.clear_agree log x.conversationId
      simp only [h]
      rcases s.clear x.conversationId with ⟨t, _ | _⟩ <;> exact ⟨log', rfl⟩

/-- A command does the same whatever has been logged. -/
theorem handle_agree (c : Command) :
    Stores.Agree (handle hooks s x c) (handle hooks (s.relogged log) x c) := by
  cases c with
  | request target => exact handleRequest_agree s log x target
  | beginContact contactId => exact s.commit_agree log ..
  | endContact c => exact handleEnd_agree hooks s log x c
  | updateMemory contactId us writer => exact handleUpdate_agree s log x contactId us writer
  | currentTask => exact ⟨log, rfl⟩
  | snapshot => exact ⟨log, rfl⟩
  | shutdown => exact ⟨log, rfl⟩

end Actor

namespace Manager

/-! ### Calls -/

/-- The manager with another log and another registry. -/
def altered (w : Manager) (log : List Operation) (actors : Dict Actor) : Manager :=
  { w with stores := w.stores.relogged log, actors }

/-- The manager with another log. -/
def relogged (w : Manager) (log : List Operation) : Manager :=
  { w with stores := w.stores.relogged log }

/-- The same result, from managers with different logs. -/
def Agree {α : Type} (r r' : Manager × α) : Prop := ∃ log, r' = (r.1.relogged log, r.2)

variable (w : Manager) (log : List Operation)

/-- Looking a machine up reads neither the log nor the registry. -/
theorem definition_altered (actors : Dict Actor) (f v : String) :
    ∃ log',
    (w.altered log actors).definition f v =
        ((w.definition f v).1.altered log' actors, (w.definition f v).2) := by
  obtain ⟨log', h⟩ := w.stores.getVersion_agree log f v
  have h' : (w.altered log actors).stores.getVersion f v =
    ((w.stores.getVersion f v).1.relogged log', (w.stores.getVersion f v).2) := h
  unfold definition
  rw [show (w.altered log actors).definitions = w.definitions from rfl]
  simp only
  cases w.definitions.get? (machineId f v) with
  | some m => exact ⟨log, rfl⟩
  | none =>
    simp only [h']
    cases compileRead f v (w.stores.getVersion f v).2 <;> exact ⟨log', rfl⟩

theorem definition_agree (f v : String) :
    Agree (w.definition f v) ((w.relogged log).definition f v) := by
  obtain ⟨log', h⟩ := w.definition_altered log w.actors f v
  refine ⟨log', h.trans ?_⟩
  rw [altered, ← (w.definition_consulted f v).actors]
  rfl

theorem spawn_relogged (x : Session) :
    (w.relogged log).spawn x = ((w.spawn x).1.relogged log, (w.spawn x).2) := by
  unfold spawn
  rw [show (w.relogged log).actors = w.actors from rfl,
    show (w.relogged log).mailboxSize = w.mailboxSize from rfl]
  simp only
  split
  · rfl
  · split <;> rfl

theorem load_agree (c : String) : Agree (w.load c) ((w.relogged log).load c) := by
  obtain ⟨log₁, h₁⟩ := w.stores.getSnapshot_agree log c
  have h₁' : (w.relogged log).stores.getSnapshot c = _ := h₁
  unfold load
  simp only [h₁']
  rcases w.stores.getSnapshot c with ⟨t, e | _ | s⟩
  · exact ⟨log₁, rfl⟩
  · exact ⟨log₁, rfl⟩
  · obtain ⟨log₂, h₂⟩ :=
      ({ w with stores := t } : Manager).definition_agree log₁ s.flowId s.versionId
    simp only
    rw [show ({ w.relogged log with stores := t.relogged log₁ } : Manager) =
      ({ w with stores := t } : Manager).relogged log₁ from rfl, h₂]
    rcases ({ w with stores := t } : Manager).definition s.flowId s.versionId with ⟨u, e | m⟩
    · exact ⟨log₂, rfl⟩
    · simp only
      cases Session.resume m s with
      | error e => exact ⟨log₂, rfl⟩
      | ok x =>
        refine ⟨log₂, ?_⟩
        simp only [spawn_relogged]

theorem find_agree (c : String) : Agree (w.find c) ((w.relogged log).find c) := by
  unfold find
  rw [show (w.relogged log).actors = w.actors from rfl]
  split
  · exact ⟨log, rfl⟩
  · exact w.load_agree log c

theorem findOrStart_agree (n : NewContact) :
    Agree (w.findOrStart n) ((w.relogged log).findOrStart n) := by
  obtain ⟨log₁, h₁⟩ := w.find_agree log n.conversationId
  unfold findOrStart
  rw [h₁]
  rcases w.find n.conversationId with ⟨t, e | _ | key⟩
  · exact ⟨log₁, rfl⟩
  · obtain ⟨log₂, h₂⟩ := t.definition_agree log₁ n.flowId n.versionId
    simp only
    rw [h₂]
    rcases t.definition n.flowId n.versionId with ⟨u, e | m⟩
    · exact ⟨log₂, rfl⟩
    · exact ⟨log₂, spawn_relogged u log₂ _⟩
  · exact ⟨log₁, rfl⟩

theorem send_agree (key : String) (c : Command) :
    Agree (w.send key c) ((w.relogged log).send key c) := by
  unfold send
  rw [show (w.relogged log).actors = w.actors from rfl]
  split
  · rename_i x _
    obtain ⟨log', h⟩ := Actor.handle_agree w.hooks w.stores log x c
    have h' : Actor.handle (w.relogged log).hooks (w.relogged log).stores x c = _ := h
    simp only [h']
    rcases Actor.handle w.hooks w.stores x c with ⟨t, _ | _ | _⟩ <;> exact ⟨log', rfl⟩
  · exact ⟨log, rfl⟩

theorem command_agree (c : String) (cmd : Command) :
    Agree (w.command c cmd) ((w.relogged log).command c cmd) := by
  obtain ⟨log', h⟩ := w.find_agree log c
  unfold command
  rw [h]
  rcases w.find c with ⟨t, e | _ | key⟩
  · exact ⟨log', rfl⟩
  · exact ⟨log', rfl⟩
  · exact t.send_agree log' key cmd

/-- A call does the same whatever has been logged. -/
theorem call_agree (c : Call) : Agree (w.call c) ((w.relogged log).call c) := by
  cases c with
  | begin n =>
    obtain ⟨log', h⟩ := w.findOrStart_agree log n
    unfold call
    simp only
    rw [h]
    rcases w.findOrStart n with ⟨t, e | key⟩
    · exact ⟨log', rfl⟩
    · exact t.send_agree log' key _
  | request id target => exact w.command_agree log id _
  | update id contactId us writer => exact w.command_agree log id _
  | currentTask id => exact w.command_agree log id _
  | snapshot id => exact w.command_agree log id _
  | endContact id e =>
    obtain ⟨log', h⟩ := w.command_agree log id (.endContact e)
    refine ⟨log', ?_⟩
    simp only [call, h]
    split <;> rfl
  | unload id => exact ⟨log, rfl⟩
  | definition f v =>
    obtain ⟨log', h⟩ := w.definition_agree log f v
    exact ⟨log', by simp only [call, h]⟩
  | runningCount => exact ⟨log, rfl⟩

/-! ### Runs -/

/-- A call, or what happens to the stores between two calls. -/
inductive Step where
  | call (c : Call)
  | meanwhile (change : Backend → Backend) (clock : Instant) (faults : Operation → Option Fault)

/-- What happens between two calls. -/
def alter (w : Manager) (change : Backend → Backend) (clock : Instant)
    (faults : Operation → Option Fault) : Manager :=
  { w with stores := { w.stores with backend := change w.stores.backend, clock, faults } }

/-- The manager after a step. -/
def step (w : Manager) : Step → Manager
  | .call c => (w.call c).1
  | .meanwhile change clock faults => w.alter change clock faults

/-- The manager after a run. -/
def run (w : Manager) (steps : List Step) : Manager := steps.foldl step w

/-- The answers to the calls of a run that `watched` picks out. -/
def answers (watched : Call → Bool) (w : Manager) : List Step → List Answer
  | [] => []
  | .call c :: steps =>
    let rest := answers watched (w.call c).1 steps
    if watched c then (w.call c).2 :: rest else rest
  | .meanwhile change clock faults :: steps => answers watched (w.alter change clock faults) steps

/-- A run has the same answers whatever had been logged before it. -/
theorem answers_relogged (watched : Call → Bool) (steps : List Step) :
    (w.relogged log).answers watched steps = w.answers watched steps := by
  induction steps generalizing w log with
  | nil => rfl
  | cons s steps ih =>
    cases s with
    | call c =>
      obtain ⟨log', h⟩ := w.call_agree log c
      simp only [answers]
      rw [h, ih]
    | meanwhile change clock faults => exact ih (w.alter change clock faults) log

end Manager
end Dialogue.Live
