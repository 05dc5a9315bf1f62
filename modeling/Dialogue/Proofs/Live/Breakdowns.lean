import Dialogue.Proofs.Live.Isolation
import Dialogue.Proofs.Live.TakenUp

/-! # Actors that break down

    An actor breaks down where a hook does that the end of a contact is left to, and where a
    write to memory ends after the calendar (`Fatal`). Nothing takes it out of the registry
    but an unload: until then every call on its conversation is answered as if the
    conversation had been closed, and it counts as running (`dead_actors`). A conversation
    whose actor has not broken down goes on. -/

namespace Dialogue.Live

open Time Dialogue.Flow Conversation StateMachine Memory

/-- The actor with the session breaks down on the command. -/
inductive Fatal (hooks : Hooks) (s : Stores) (x : Session) : Command → Prop
  /-- The end of the contact is left to a hook, which breaks down. -/
  | hook {c : ContactEnd} {name : String} {hook : Hook} : x.closure.multiContact = true →
      (x.closure.timeLimit.any fun limit => limitReached limit x.state.context.startedAt s.clock) =
        false →
      x.closure.hook = some name → hooks name = some hook → hook x.closure x.state c = none →
      Fatal hooks s x (.endContact c)
  /-- All variables are declared, and the calendar ends before the expiry of the memory. -/
  | expiry {contactId : String} {us : List Update} {writer : Writer} :
      x.machine.undeclared (us.map (·.variableId)) = [] →
      (s.setMemory x.conversationId contactId us writer).2 = .ok none →
      Fatal hooks s x (.updateMemory contactId us writer)

/-- An actor that does not break down answers and goes on, or has closed its conversation. -/
inductive Outlived : Command → Stores × Reaction → Prop
  | goesOn {cmd : Command} {t : Stores} {y : Session} {a : Answer} :
      (∀ k, a ≠ .error (.conversationClosed k)) →
      Outlived cmd (t, .goOn y a)
  | closed {c : ContactEnd} {t : Stores} {a : Answer} :
      closes a = true → Outlived (.endContact c) (t, .stop a)

/-! ### What an actor does not outlive -/

theorem outlived_commit (s : Stores) (cmd : Command) (before after : Session) (r : Reply) :
    Outlived cmd (s.commit before after r) := by
  rcases s.commit_cases before after r with ⟨t, reason, hc, -⟩ | ⟨t, hc, -⟩
  all_goals
    rw [hc]
    exact .goesOn (by rintro k ⟨⟩)

namespace Actor

variable {hooks : Hooks} {s : Stores} {x : Session} {cmd : Command}

/-- A fatal command breaks the actor down. -/
theorem handle_fatal (h : Fatal hooks s x cmd) : ∃ t, handle hooks s x cmd = (t, .breakDown) := by
  cases h with
  | @hook c name hook hmulti hlimit hname hhook hnone =>
    have hend : x.endContact hooks c s.clock = none :=
      Session.endContact_eq_none.2 ⟨hmulti, hlimit, name, hook, hname, hhook, hnone⟩
    exact ⟨s, by rw [handle, handleEnd, hend]⟩
  | @expiry contactId us writer hdeclared hset =>
    rw [handle, handleUpdate, hdeclared]
    rcases hr : s.setMemory x.conversationId contactId us writer with ⟨t, r⟩
    rw [hr] at hset
    obtain rfl : r = .ok none := hset
    exact ⟨t, rfl⟩

theorem outlived_request (target : String) :
    Outlived (.request target) (handleRequest s x target) := by
  unfold handleRequest
  split
  · exact .goesOn (by rintro k ⟨⟩)
  · split
    · exact outlived_commit ..
    · exact .goesOn (by rintro k ⟨⟩)

theorem outlived_update {contactId : String} {us : List Update} {writer : Writer}
    (h : ¬ Fatal hooks s x (.updateMemory contactId us writer)) :
    Outlived (.updateMemory contactId us writer) (handleUpdate s x contactId us writer) := by
  unfold handleUpdate
  split
  · exact .goesOn (by rintro k ⟨⟩)
  · rename_i hdeclared
    split
    · exact .goesOn (by rintro k ⟨⟩)
    · rename_i hset
      exact absurd (.expiry hdeclared (by rw [hset])) h
    · exact .goesOn (by rintro k ⟨⟩)

theorem outlived_end {c : ContactEnd} (h : ¬ Fatal hooks s x (.endContact c)) :
    Outlived (.endContact c) (handleEnd hooks s x c) := by
  unfold handleEnd
  split
  · rename_i hend
    obtain ⟨hmulti, hlimit, name, hook, hname, hhook, hnone⟩ := Session.endContact_eq_none.1 hend
    exact absurd (.hook hmulti hlimit hname hhook hnone) h
  · split
    · exact outlived_commit ..
    · rename_i hclose
      split
      · exact .closed (by simp [closes, hclose])
      · exact .closed rfl

/-- Any other command is outlived. -/
theorem outlived (h : ¬ Fatal hooks s x cmd) (hcmd : cmd ≠ .shutdown) :
    Outlived cmd (handle hooks s x cmd) := by
  cases cmd with
  | request target => exact outlived_request target
  | beginContact contactId => exact outlived_commit ..
  | endContact c => exact outlived_end h
  | updateMemory contactId us writer => exact outlived_update h
  | currentTask => exact .goesOn (by rintro k ⟨⟩)
  | snapshot => exact .goesOn (by rintro k ⟨⟩)
  | shutdown => exact absurd rfl hcmd

end Actor

theorem Refusal.ne_closed {size : Nat} {e : RuntimeError} (h : Refusal size e) (k : String) :
    e ≠ .conversationClosed k := by
  cases h <;> exact nofun

namespace Manager

variable {w : Manager} {c : String} {cmd : Command}

/-! ### Sending -/

theorem send_dead (h : w.actors.get? c = some .dead) :
    w.send c cmd = (w, .error (.conversationClosed c)) := by
  rw [send, h]

theorem send_fatal {x : Session} (hx : w.actors.get? c = some (.live x))
    (h : Fatal w.hooks w.stores x cmd) :
    (w.send c cmd).1.actors.get? c = some .dead ∧
      (w.send c cmd).2 = .error (.conversationClosed c) := by
  obtain ⟨t, ht⟩ := Actor.handle_fatal h
  simp only [send, hx, ht, Dict.get?_insert, if_true, and_self]

/-- An actor that outlives the command is there, unless it has closed its conversation. -/
theorem send_outlived {x : Session} (hx : w.actors.get? c = some (.live x))
    (h : ¬ Fatal w.hooks w.stores x cmd) (hcmd : cmd ≠ .shutdown) :
    (∀ k, (w.send c cmd).2 ≠ .error (.conversationClosed k)) ∧
      ((w.send c cmd).1.actors.get? c ≠ some .dead ∨ closes (w.send c cmd).2 = true ∧
          ∃ e, cmd = .endContact e) := by
  have hreaction := Actor.outlived h hcmd
  rcases hh : Actor.handle w.hooks w.stores x cmd with ⟨t, r⟩
  rw [hh] at hreaction
  simp only [send, hx, hh]
  cases hreaction with
  | goesOn hanswer => exact ⟨hanswer, .inl (by simp)⟩
  | closed hcloses =>
    refine ⟨?_, .inr ⟨hcloses, _, rfl⟩⟩
    rintro k rfl
    cases hcloses

/-! ### Commands and calls -/

/-- The command makes the actor break down that is found for the conversation, or taken up. -/
def FelledBy (w : Manager) (c : String) (cmd : Command) : Prop :=
  ∃ x, (w.find c).1.actors.get? c = some (.live x) ∧ Fatal w.hooks (w.find c).1.stores x cmd

/-- The call makes the actor of the conversation break down. -/
def Fells (w : Manager) (call : Call) (c : String) : Prop :=
  ∃ cmd, call.target = some (c, cmd) ∧ w.FelledBy c cmd

/-- What comes of a command for a conversation. -/
inductive Met (w : Manager) (c : String) (cmd : Command) : Manager × Answer → Prop
  /-- There is no actor to handle it, or none that outlives it. -/
  | closed {w' : Manager} : w.actors.get? c = some .dead ∨ w.FelledBy c cmd →
      w'.actors.get? c = some .dead →
      Met w c cmd (w', .error (.conversationClosed c))
  | answered {w' : Manager} {a : Answer} : w.actors.get? c ≠ some .dead → ¬ w.FelledBy c cmd →
      (∀ k, a ≠ .error (.conversationClosed k)) →
      (w'.actors.get? c ≠ some .dead ∨ closes a = true ∧ ∃ e, cmd = .endContact e) →
      Met w c cmd (w', a)

/-- Without an actor after the look-up, nothing is felled. -/
theorem not_felledBy (h : (w.find c).1.actors.get? c = none) : ¬ w.FelledBy c cmd := by
  rintro ⟨x, hx, -⟩
  rw [h] at hx
  cases hx

/-- The command goes to the actor that has been found or started. -/
theorem met_send {u : Manager}
    (hactor : w.actors.get? c = some .dead ∧ u = w ∨ w.actors.get? c ≠ some .dead ∧
        ∃ x, u.actors.get? c = some (.live x))
    (hfelled : ∀ x, u.actors.get? c = some (.live x) →
        (Fatal u.hooks u.stores x cmd ↔ w.FelledBy c cmd))
    (hcmd : cmd ≠ .shutdown) : w.Met c cmd (u.send c cmd) := by
  rcases hactor with ⟨hdead, rfl⟩ | ⟨hdead, x, hx⟩
  · rw [send_dead hdead]
    exact .closed (.inl hdead) hdead
  · by_cases hfatal : Fatal u.hooks u.stores x cmd
    · obtain ⟨hafter, hanswer⟩ := send_fatal hx hfatal
      rcases hs : u.send c cmd with ⟨w', a⟩
      rw [hs] at hafter hanswer
      obtain rfl : a = _ := hanswer
      exact .closed (.inr ((hfelled x hx).1 hfatal)) hafter
    · obtain ⟨hanswer, hafter⟩ := send_outlived hx hfatal hcmd
      exact .answered hdead (fun h => hfatal ((hfelled x hx).2 h)) hanswer hafter

/-- The actor that is found is alive, or has been dead before. -/
theorem actor_found {u : Manager} {key : String} (h : w.Found c (u, .ok (some key))) :
    w.actors.get? c = some .dead ∧ u = w ∨ w.actors.get? c ≠ some .dead ∧
      ∃ x, u.actors.get? c = some (.live x) := by
  cases h with
  | @there a ha =>
    cases a with
    | dead => exact .inl ⟨ha, rfl⟩
    | live x => exact .inr ⟨by simp [ha], x, ha⟩
  | @loaded _ _ _ x hnone _ _ _ _ =>
    exact .inr ⟨by simp [hnone], x, by rw [Dict.get?_insert, if_pos rfl]⟩

/-- Nothing has been found, and there is no actor. -/
theorem met_absent {u : Manager} {a : Answer} (hnone : w.actors.get? c = none) (hc : w.Consulted u)
    (hfelled : ¬ w.FelledBy c cmd) (hanswer : ∀ k, a ≠ .error (.conversationClosed k)) :
    w.Met c cmd (u, a) := by
  exact .answered (by simp [hnone]) hfelled hanswer (.inl (by simp [hc.actors, hnone]))

theorem command_met (hw : w.Sound) (c : String) (cmd : Command) (hcmd : cmd ≠ .shutdown) :
    w.Met c cmd (w.command c cmd) := by
  have hfound := found_find (hw.storedUnder c)
  have hexplained := w.find_explained c
  unfold command
  rcases hf : w.find c with ⟨u, e | _ | key⟩
  all_goals rw [hf] at hfound hexplained
  · have hrefusal : Refusal w.mailboxSize e := hexplained
    cases hfound with
    | failed hnone hc =>
      refine met_absent hnone hc (not_felledBy (by rw [hf, hc.actors, hnone])) ?_
      intro k hk
      exact hrefusal.ne_closed k (Except.error.inj hk)
  · cases hfound with
    | unknown hnone hc _ =>
      exact met_absent hnone hc (not_felledBy (by rw [hf, hc.actors, hnone])) nofun
  · obtain ⟨rfl, hhooks, -, -⟩ := found_state hfound
    -- the command goes to the actor of the look-up, which `FelledBy` is about
    refine met_send (actor_found hfound) ?_ hcmd
    intro x hx
    constructor
    · intro hfatal
      exact ⟨x, by rw [hf, hx], by rw [hf, ← hhooks]; exact hfatal⟩
    · rintro ⟨y, hy, hfatal⟩
      rw [hf, hx] at hy
      cases hy
      rwa [hf, ← hhooks] at hfatal

theorem not_felledBy_begin {contactId : String} : ¬ w.FelledBy c (.beginContact contactId) := by
  rintro ⟨x, -, ⟨⟩⟩

theorem findOrStart_refusal {n : NewContact} {e : RuntimeError}
    (h : (w.findOrStart n).2 = .error e) :
    ∃ size, Refusal size e := by
  have hexplained := w.find_explained n.conversationId
  unfold findOrStart at h
  rcases hf : w.find n.conversationId with ⟨u, e' | _ | key⟩
  all_goals
    rw [hf] at h hexplained
    simp only at h
  · cases h
    exact ⟨_, hexplained⟩
  · rcases hd : u.definition n.flowId n.versionId with ⟨v, e' | m⟩
    all_goals
      rw [hd] at h
      simp only at h
    · cases h
      exact ⟨_, definition_refusal (congrArg Prod.snd hd) 0⟩
    · exact ⟨_, spawn_refusal h⟩
  · cases h

/-- A contact that begins finds an actor alive, or dead as it was, or starts one. -/
theorem begin_met (hw : w.Sound) (n : NewContact) :
    w.Met n.conversationId (.beginContact n.contactId) (w.call (.begin n)) := by
  have hreached := reached_findOrStart (hw.storedUnder n.conversationId)
  simp only [Manager.call]
  rcases hf : w.findOrStart n with ⟨u, e | key⟩
  all_goals rw [hf] at hreached
  · obtain ⟨size, hrefusal⟩ := findOrStart_refusal (congrArg Prod.snd hf)
    cases hreached with
    | failed hnone hc =>
      refine met_absent hnone hc not_felledBy_begin ?_
      intro k hk
      exact hrefusal.ne_closed k (Except.error.inj hk)
  · obtain ⟨rfl, -⟩ := reached_state hreached
    refine met_send ?_ (fun x _ => iff_of_false (by rintro ⟨⟩) not_felledBy_begin) (by simp)
    cases hreached with
    | found hfound => exact actor_found hfound
    | @started _ m hnone _ _ _ =>
      exact .inr ⟨by simp [hnone], n.start w.stores.clock m, by rw [Dict.get?_insert, if_pos rfl]⟩

/-- The conversation has no live actor after the call. -/
def Lost (w : Manager) (call : Call) (c : String) : Prop :=
  w.actors.get? c = some .dead ∨ w.Fells call c

theorem fells_iff {call : Call} (ht : call.target = some (c, cmd)) :
    w.Fells call c ↔ w.FelledBy c cmd := by
  constructor
  · rintro ⟨cmd', ht', h⟩
    rw [ht] at ht'
    cases ht'
    exact h
  · exact fun h => ⟨cmd, ht, h⟩

/-- The call answers that the conversation has been closed, and its actor is dead, if it is lost,
    and neither if it is not. -/
structure Accounted (w : Manager) (call : Call) (c : String) (r : Manager × Answer) : Prop where
  answer : r.2 = .error (.conversationClosed c) ↔ w.Lost call c
  actor : r.1.actors.get? c = some .dead ↔ w.Lost call c

theorem Met.accounted {call : Call} {r : Manager × Answer} (h : w.Met c cmd r)
    (ht : call.target = some (c, cmd))
    (hclosed : ∀ e, cmd = .endContact e → closes r.2 = true → r.1.actors.get? c ≠ some .dead) :
    w.Accounted call c r := by
  have hlost : w.Lost call c ↔ w.actors.get? c = some .dead ∨ w.FelledBy c cmd := by
    rw [Lost, fells_iff ht]
  cases h with
  | closed hfelled hafter =>
    exact ⟨iff_of_true rfl (hlost.2 hfelled), iff_of_true hafter (hlost.2 hfelled)⟩
  | answered hdead hfelled hanswer hafter =>
    have hnot : ¬ w.Lost call c := fun h => (hlost.1 h).elim hdead hfelled
    refine ⟨iff_of_false (hanswer c) hnot, iff_of_false ?_ hnot⟩
    rcases hafter with hafter | ⟨hcloses, e, he⟩
    · exact hafter
    · exact hclosed e he hcloses

/-- A contact that ends and closes its conversation has had a live actor, which is taken out. -/
theorem end_accounted (hw : w.Sound) (c : String) (e : ContactEnd) :
    w.Accounted (.endContact c e) c (w.call (.endContact c e)) := by
  have hmet := command_met hw c (.endContact e) (by simp)
  simp only [Manager.call]
  rcases hr : w.command c (.endContact e) with ⟨w', a⟩
  rw [hr] at hmet
  cases hcloses : closes a with
  | false =>
    refine hmet.accounted rfl ?_
    rintro e' - hcloses'
    rw [hcloses] at hcloses'
    cases hcloses'
  | true =>
    -- whatever the command has left in the registry is taken out after the answer
    have herased : (w'.actors.erase c).get? c ≠ some .dead := by simp [Dict.get?_erase]
    simp only [if_true]
    cases hmet with
    | closed _ _ => cases hcloses
    | answered hdead hfelled hanswer _ =>
      exact (Met.answered hdead hfelled hanswer (.inl herased)).accounted rfl fun _ _ _ => herased

theorem call_accounted (hw : w.Sound) {call : Call} (ht : call.target = some (c, cmd))
    (hunload : call ≠ .unload c) :
    w.Accounted call c (w.call call) := by
  cases call with
  | begin n =>
    cases ht
    exact (begin_met hw n).accounted rfl nofun
  | endContact k e =>
    cases ht
    exact end_accounted hw c e
  | unload k =>
    cases ht
    exact absurd rfl hunload
  | request k target =>
    cases ht
    exact (command_met hw c (.request target) nofun).accounted rfl nofun
  | update k contactId us writer =>
    cases ht
    exact (command_met hw c (.updateMemory contactId us writer) nofun).accounted rfl nofun
  | currentTask k =>
    cases ht
    exact (command_met hw c .currentTask nofun).accounted rfl nofun
  | snapshot k =>
    cases ht
    exact (command_met hw c .snapshot nofun).accounted rfl nofun
  | definition f v => cases ht
  | runningCount => cases ht

/-! ### Runs -/

theorem not_fells_unload : ¬ w.Fells (.unload c) c := by
  rintro ⟨cmd, ⟨⟩, x, -, ⟨⟩⟩

/-- After a call there is a dead actor where the call felled it, or where there was one and the
    call has not unloaded it. -/
theorem call_dead (hw : w.Sound) (call : Call) (c : String) :
    (w.call call).1.actors.get? c = some .dead ↔
    w.Fells call c ∨ w.actors.get? c = some .dead ∧ call ≠ .unload c := by
  by_cases hunload : call = .unload c
  · subst hunload
    have hgone : (w.call (.unload c)).1.actors.get? c = none := by
      simp only [Manager.call, Dict.get?_erase, if_true]
    rw [hgone]
    simp [not_fells_unload]
  -- a call on the conversation accounts for its actor; any other leaves it
  · by_cases ht : ∃ cmd, call.target = some (c, cmd)
    · obtain ⟨cmd, ht⟩ := ht
      rw [(call_accounted hw ht hunload).actor, Lost, or_comm, and_iff_left hunload]
    · have hfells : ¬ w.Fells call c := by
        rintro ⟨cmd, ht', -⟩
        exact ht ⟨cmd, ht'⟩
      rw [(call_sameFor hw fun cmd hcmd => ht ⟨cmd, hcmd⟩).actor, or_iff_right hfells,
        and_iff_left hunload]

/-- A call of the run felled the actor, and no later one unloaded it. -/
def FelledIn (w : Manager) (c : String) (steps : List Step) : Prop :=
  ∃ before call after, steps = before ++ .call call :: after ∧ (w.run before).Fells call c ∧
    .call (.unload c) ∉ after

theorem felledIn_cons {s : Step} {steps : List Step} :
    w.FelledIn c (s :: steps) ↔
    (∃ call, s = .call call ∧ w.Fells call c ∧ .call (.unload c) ∉ steps) ∨
      (w.step s).FelledIn c steps := by
  -- the call that fells it is the first step, or one of the rest
  constructor
  · rintro ⟨_ | ⟨s, before⟩, call, after, hsteps, hfells, hafter⟩
    · cases hsteps
      exact .inl ⟨call, rfl, hfells, hafter⟩
    · cases hsteps
      exact .inr ⟨before, call, after, rfl, hfells, hafter⟩
  · rintro (⟨call, rfl, hfells, hafter⟩ | ⟨before, call, after, rfl, hfells, hafter⟩)
    · exact ⟨[], call, steps, rfl, hfells, hafter⟩
    · exact ⟨s :: before, call, after, rfl, hfells, hafter⟩

/-- After a step there is a dead actor where a call felled it, or where there was one and the step
    is not its unloading. -/
theorem step_dead {s : Step} (hw : w.Sound) (c : String) :
    (w.step s).actors.get? c = some .dead ↔
    (∃ call, s = .call call ∧ w.Fells call c) ∨ w.actors.get? c = some .dead ∧
      s ≠ .call (.unload c) := by
  cases s with
  | call call => simpa [step] using call_dead hw call c
  | meanwhile change clock faults => simp [step, alter]

theorem run_dead {steps : List Step} (hw : w.Sound) (hsteps : ∀ s ∈ steps, s.KeepsSnapshots)
    (c : String) :
    (w.run steps).actors.get? c = some .dead ↔
      w.FelledIn c steps ∨ w.actors.get? c = some .dead ∧ .call (.unload c) ∉ steps := by
  -- the last call to fell the actor may be the first step, or lie behind it
  induction steps generalizing w with
  | nil => simp [run, FelledIn]
  | cons s steps ih =>
    have hrest := ih (hw.step (hsteps s (.head _))) fun s hs => hsteps s (.tail _ hs)
    rw [run, List.foldl_cons, ← run, hrest, step_dead hw c, felledIn_cons, List.mem_cons, not_or]
    constructor
    · rintro (hfelled | ⟨⟨call, hs, hfells⟩ | ⟨hdead, hs⟩, hafter⟩)
      · exact .inl (.inr hfelled)
      · exact .inl (.inl ⟨call, hs, hfells, hafter⟩)
      · exact .inr ⟨hdead, hs.symm, hafter⟩
    · rintro ((⟨call, hs, hfells, hafter⟩ | hfelled) | ⟨hdead, hs, hafter⟩)
      · exact .inr ⟨.inl ⟨call, hs, hfells⟩, hafter⟩
      · exact .inl hfelled
      · exact .inr ⟨.inr ⟨hdead, Ne.symm hs⟩, hafter⟩

/-- A look-up of a conversation of which anything is stored finds an actor alive, or is refused. -/
theorem find_usable (hw : w.Sound) (hdead : w.actors.get? c ≠ some .dead)
    (hblob : (w.stores.backend.blob? c).isSome) :
    (∃ u x, w.find c = (u, .ok (some c)) ∧ u.actors.get? c = some (.live x)) ∨
      ∃ u e, w.find c = (u, .error e) ∧ Refusal w.mailboxSize e := by
  have hfound := found_find (hw.storedUnder c)
  have hexplained := w.find_explained c
  rcases hf : w.find c with ⟨u, e | _ | key⟩
  all_goals rw [hf] at hfound hexplained
  · exact .inr ⟨u, e, rfl, hexplained⟩
  · have hnone : w.stores.backend.blob? c = none := hexplained
    rw [hnone] at hblob
    cases hblob
  · obtain ⟨rfl, -⟩ := found_state hfound
    rcases actor_found hfound with ⟨hthere, -⟩ | ⟨-, x, hx⟩
    · exact absurd hthere hdead
    · exact .inl ⟨u, x, rfl, hx⟩

/-- After any run from a registry without actors, an actor in the registry is dead exactly where a
    call has felled it and no later one has unloaded it. Exactly then, and when it is felled by the
    call, a call on its conversation answers that it has been closed. Any other conversation that
    is stored can be used. -/
theorem dead_actors {s : Stores} (hs : ∀ c x, s.stored c = some x → x.context.conversationId = c)
    (hooks : Hooks) (size : Nat) {steps : List Step} (hsteps : ∀ st ∈ steps, st.KeepsSnapshots)
    (c : String) :
    let w := (fresh s hooks size).run steps
    (w.actors.get? c = some .dead ↔ (fresh s hooks size).FelledIn c steps) ∧
      (∀ call cmd, call.target = some (c, cmd) → call ≠ .unload c →
        ((w.call call).2 = .error (.conversationClosed c) ↔ w.actors.get? c = some .dead ∨
          w.Fells call c)) ∧
      (w.actors.get? c ≠ some .dead → (w.stores.backend.blob? c).isSome →
        (∃ u x, w.find c = (u, .ok (some c)) ∧ u.actors.get? c = some (.live x)) ∨
          ∃ u e, w.find c = (u, .error e) ∧ Refusal w.mailboxSize e) := by
  intro w
  have hfresh := sound_fresh hs hooks size
  have hw : w.Sound := hfresh.run hsteps
  refine ⟨?_, ?_, find_usable hw⟩
  · rw [run_dead hfresh hsteps c]
    refine or_iff_left ?_
    rintro ⟨⟨⟩, -⟩
  · intro call cmd ht hunload
    exact (call_accounted hw ht hunload).answer

/-- Bookings of several contacts, which end as a hook says. -/
def hookedStores : Stores :=
  stocked [{ booking [] "" with closure := { multiContact := true, hook := some "crash" } }]

/-- A manager of such bookings whose hooks break down. -/
def breakingManager : Manager := fresh hookedStores (fun _ => some fun _ _ _ => none) 1

/-- The contact of the visitor begins and ends. -/
def visit : List Step := [.call (.begin visitor), .call (.endContact "c1" { contactId := "k1" })]

theorem visit_fells : breakingManager.FelledIn "c1" visit := by
  refine ⟨[.call (.begin visitor)], .endContact "c1" { contactId := "k1" }, [], rfl,
    ⟨_, rfl, _, rfl, ?_⟩, by simp⟩
  exact .hook rfl rfl rfl rfl rfl

/-- The end of the contact fells the actor of the visitor. Once it is unloaded, the conversation is
    found again, or refused. -/
theorem felled_until_unloaded :
    let w := breakingManager.run visit
    let u := breakingManager.run (visit ++ [.call (.unload "c1")])
    w.actors.get? "c1" = some .dead ∧
    (w.call (.currentTask "c1")).2 = .error (.conversationClosed "c1") ∧
      u.actors.get? "c1" = none ∧
      ((∃ v x, u.find "c1" = (v, .ok (some "c1")) ∧ v.actors.get? "c1" = some (.live x)) ∨
        ∃ v e, u.find "c1" = (v, .error e) ∧ Refusal u.mailboxSize e) := by
  intro w u
  have hstored : ∀ c x, hookedStores.stored c = some x → x.context.conversationId = c := by
    rintro c x ⟨⟩
  have hvisit : ∀ st ∈ visit, st.KeepsSnapshots := by simp [visit, Step.KeepsSnapshots]
  have hunloaded : ∀ st ∈ visit ++ [.call (.unload "c1")], st.KeepsSnapshots := by
    simp [visit, Step.KeepsSnapshots]
  obtain ⟨hdead, hanswer, -⟩ := dead_actors hstored (fun _ => some fun _ _ _ => none) 1 hvisit "c1"
  obtain ⟨-, -, husable⟩ := dead_actors hstored (fun _ => some fun _ _ _ => none) 1 hunloaded "c1"
  have hw : w.actors.get? "c1" = some .dead := hdead.2 visit_fells
  have hu : u.actors.get? "c1" = none := rfl
  have hnotDead : u.actors.get? "c1" ≠ some .dead := by
    rw [hu]
    nofun
  exact ⟨hw, (hanswer (.currentTask "c1") _ rfl nofun).2 (.inl hw), hu, husable hnotDead rfl⟩

/-- The snapshot of the visitor is stored, but there is no live actor behind the handle
    in the registry: it counts as running, and every call is answered as if the
    conversation had been closed. -/
theorem dead_actor_stays_registered :
    let w := breakingManager.run visit
    Reachable w ∧ (w.stores.stored "c1").isSome ∧ w.actors.get? "c1" = some .dead ∧
    w.runningCount = 1 ∧
      (w.call (.currentTask "c1")).2 = .error (.conversationClosed "c1") ∧
      (w.call (.request "c1" "book")).2 = .error (.conversationClosed "c1") ∧
      (w.call (.begin visitor)).2 = .error (.conversationClosed "c1") := by
  intro w
  exact ⟨.call _ (.call _ (.fresh fun _ => rfl)), rfl, rfl, rfl, rfl, rfl, rfl⟩

end Manager
end Dialogue.Live
