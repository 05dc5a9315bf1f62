import Dialogue.Proofs.Dictionaries
import Dialogue.Proofs.Conversation.RoundTrip
import Dialogue.Proofs.Live.Absent

/-! # Starts that fail

    A new conversation is registered before its snapshot is stored. A start that fails before that
    has only been logged, so the manager goes on as if it had not been tried. Where it is the
    snapshot that cannot be stored, the actor stays: it counts as running and answers for a
    conversation that was never started (`failed_start`, `registered_without_a_snapshot`). -/

namespace Dialogue.Live

open Time Dialogue.Flow Conversation StateMachine Memory

namespace Manager

variable {w w' : Manager} {c : String}

/-! ### Starting it -/

/-- The contact gets as far as an actor for its conversation, which has yet to be stored. -/
def Starts (w : Manager) (n : NewContact) : Prop :=
  ∃ x, (w.findOrStart n).1.actors.get? n.conversationId = some (.live x)

/-- A start that ends before an actor is registered only adds to the log. -/
theorem begin_of_not_starts {n : NewContact} {e : RuntimeError} (h : w.Absent n.conversationId)
    (hs : ¬ w.Starts n) (he : (w.call (.begin n)).2 = .error e)
    (hsize : ∀ size, e ≠ .mailboxTooLarge size) :
    ∃ log, (w.call (.begin n)).1 = w.relogged log := by
  have hstart := started_absent h
  unfold Starts at hs
  unfold Manager.call at *
  simp only at *
  cases hf : w.findOrStart n with
  | mk w₁ r =>
    rw [hf] at hstart hs he
    cases hstart with
    | failed => exact ⟨_, rfl⟩
    | tooLarge _ =>
      cases he
      exact absurd rfl (hsize _)
    | registered _ _ _ => exact absurd ⟨_, Dict.get?_insert .. |>.trans (if_pos rfl)⟩ hs

/-- The start has left an actor in the registry, and nothing in the stores. -/
structure LeavesActor (w : Manager) (n : NewContact) (e : RuntimeError) (w' : Manager) : Prop where
  error : ∃ reason, e = .snapshot reason
  count : w'.runningCount = w.runningCount + 1
  stored : ∀ c, w'.stores.stored c = w.stores.stored c
  actor : ∃ m t, w'.actors.get? n.conversationId = some (.live (n.start w.stores.clock m)) ∧
    (w'.call (.currentTask n.conversationId)).2 = .ok (.task (some t))

/-- A session that starts is in a task. -/
theorem currentTask?_start {m : Machine} (hm : m.Closed) (n : NewContact) (now : Instant) :
    ∃ t, (n.start now m).currentTask? = some t := by
  obtain ⟨t, ht⟩ := hm.indexed.exists_state? hm.initial
  exact ⟨t.task, by
    simp [Session.currentTask?, Session.currentState?, NewContact.start, Session.start, ht]⟩

theorem begin_of_starts {n : NewContact} {e : RuntimeError} (hw : w.Sound)
    (h : w.Absent n.conversationId) (hs : w.Starts n) (he : (w.call (.begin n)).2 = .error e) :
    w.LeavesActor n e (w.call (.begin n)).1 := by
  have hstart := started_absent h
  obtain ⟨x, hx⟩ := hs
  unfold Manager.call at *
  simp only at *
  cases hf : w.findOrStart n with
  | mk w₁ r =>
    rw [hf] at hstart hx he
    cases hstart with
    | failed => cases h.actor.symm.trans hx
    | tooLarge hc =>
      rw [hc.actors, h.actor] at hx
      cases hx
    | @registered w₁ m hc hm _ =>
      have hclosed : m.Closed := (hw.consulted hc).closed _ m hm
      obtain ⟨t, ht⟩ := currentTask?_start hclosed n w.stores.clock
      -- the contact is attached already, so all there is to do is to store the session
      rcases w₁.stores.commit_cases (n.start w.stores.clock m)
        ((n.start w.stores.clock m).beginContact n.contactId)
        (.task ((n.start w.stores.clock m).beginContact n.contactId).currentTask?) with
        ⟨u, reason, hu, hsame⟩ | ⟨u, hu, -⟩
      all_goals
        simp only [send, Dict.get?_insert, if_true, Actor.handle, hu] at he ⊢
      · cases he
        refine ⟨⟨reason, rfl⟩, ?_, fun c => (hsame.stored c).trans (hc.stores.stored c), m,
          t, ?_, ?_⟩
        · simp only [runningCount, Dict.insert_insert]
          rw [Dict.size_insert_new (by rw [hc.actors, h.actor]), hc.actors]
        · simp
        · simp [Manager.call, command, find, Dict.contains, send, Actor.handle, ht]
      · cases he

/-! ### What a failed start leaves -/

/-- What happens between two calls leaves the snapshots. -/
def Step.KeepsSnapshots : Step → Prop
  | .call _ => True
  | .meanwhile change _ _ => ∀ b c, (change b).stored c = b.stored c

theorem Sound.step {s : Step} (hw : w.Sound) (hs : s.KeepsSnapshots) : (w.step s).Sound := by
  cases s with
  | call call => exact hw.call call
  | meanwhile change clock faults => exact hw.restored (hs w.stores.backend)

theorem Sound.run {steps : List Step} (hw : w.Sound) (hsteps : ∀ s ∈ steps, s.KeepsSnapshots) :
    (w.run steps).Sound := by
  induction steps generalizing w with
  | nil => exact hw
  | cons s steps ih => exact ih (hw.step (hsteps s (.head _))) fun s hs => hsteps s (.tail _ hs)

/-- No contact in the run starts the conversation. -/
def Unbegun (w : Manager) (c : String) (steps : List Step) : Prop :=
  ∀ pre n post, steps = pre ++ .call (.begin n) :: post → n.conversationId = c →
    ¬ (w.run pre).Starts n

theorem Unbegun.tail {s : Step} {steps : List Step} (h : w.Unbegun c (s :: steps)) :
    (w.step s).Unbegun c steps := by
  rintro pre n post rfl hc
  exact h (s :: pre) n post rfl hc

/-- Nothing remains of the call: as many conversations run, and every run from here has the same
    answers. Where the conversation has no actor, commands for it are refused until it is begun. -/
structure LeavesNothing (w : Manager) (c : String) (w' : Manager) : Prop where
  count : w'.runningCount = w.runningCount
  answers : ∀ watched steps, w'.answers watched steps = w.answers watched steps
  unknown : w.actors.get? c = none → ∀ steps, (∀ s ∈ steps, s.KeepsSnapshots) →
      w'.Unbegun c steps → ∀ cmd,
    ((w'.run steps).command c cmd).2 = .error (.unknownConversation c) ∨
      ∃ e, ((w'.run steps).stores.getSnapshot c).2 = .error e ∧
      ((w'.run steps).command c cmd).2 = .error e

/-- Only a contact that starts it makes a conversation known. -/
theorem Absent.call (hw : w.Sound) (h : w.Absent c) (call : Call)
    (hn : ∀ n, call = .begin n → n.conversationId = c → ¬ w.Starts n) :
    (w.call call).1.Absent c := by
  -- a contact of this conversation may start it, and by assumption does not
  by_cases hbegin : ∃ n, call = .begin n ∧ n.conversationId = c
  · obtain ⟨n, rfl, rfl⟩ := hbegin
    have hstart := started_absent h
    have hnot := hn n rfl rfl
    unfold Starts at hnot
    unfold Manager.call
    simp only
    cases hf : w.findOrStart n with
    | mk w₁ r =>
      rw [hf] at hstart hnot
      cases hstart with
      | failed => exact ⟨h.actor, h.stored⟩
      | tooLarge hc => exact h.consulted hc
      | registered _ _ _ => exact absurd ⟨_, Dict.get?_insert .. |>.trans (if_pos rfl)⟩ hnot
  -- any other call keeps it away, step by step
  · refine (call_preserves (P := fun w => w.Sound ∧ w.Absent c) And.left
      (fun h hf => ⟨h.1.found hf, h.2.found hf⟩)
      (fun h hx hs => ⟨h.1.sent hx hs, .sent h.1 h.2 hx hs⟩)
        (fun h hc => ⟨h.1.consulted hc, h.2.consulted hc⟩)
      ?_ ⟨hw, h⟩ call ?_).2
    · rintro u k ⟨hu, ha⟩
      refine ⟨hu.erasing k, ?_, ha.stored⟩
      rw [Dict.get?_erase]
      split
      · rfl
      · exact ha.actor
    · rintro n u r rfl hr
      refine ⟨hw.reached hr, ?_⟩
      cases hr with
      | found hf => exact h.found hf
      | failed _ hc => exact h.consulted hc
      | started _ hc _ _ => exact (h.consulted hc).of_inserted fun he => hbegin ⟨n, rfl, he.symm⟩

theorem Absent.step {s : Step} {steps : List Step} (hw : w.Sound) (h : w.Absent c)
    (hs : s.KeepsSnapshots) (hn : w.Unbegun c (s :: steps)) : (w.step s).Absent c := by
  cases s with
  | call call =>
    refine h.call hw call ?_
    rintro n rfl hc
    exact hn [] n steps rfl hc
  | meanwhile change clock faults => exact ⟨h.actor, (hs w.stores.backend c).trans h.stored⟩

/-- A conversation that is not there is not there after a run that does not begin it. -/
theorem Absent.run {steps : List Step} (hw : w.Sound) (h : w.Absent c)
    (hsteps : ∀ s ∈ steps, s.KeepsSnapshots) (hn : w.Unbegun c steps) : (w.run steps).Absent c := by
  -- the conversation stays away from one step to the next, so the next contact does not start it
  induction steps generalizing w with
  | nil => exact h
  | cons s steps ih =>
    have hs := hsteps s (.head _)
    exact ih (hw.step hs) (h.step hw hs hn) (fun s hs => hsteps s (.tail _ hs)) hn.tail

theorem leavesNothing_relogged (hw : w.Sound) (hstored : w.stores.stored c = none)
    (log : List Operation) :
    w.LeavesNothing c (w.relogged log) where
  count := rfl
  answers := w.answers_relogged log
  unknown hactor _ hsteps hn :=
    command_absent
      (.run (w := w.relogged log) (hw.restored fun _ => rfl) ⟨hactor, hstored⟩ hsteps hn)

/-- A contact for a conversation without a live actor and a snapshot, which is answered by an error,
    leaves nothing behind if and only if no actor was registered for it. If one was, then what
    failed is the put of its snapshot, and the actor is still there. -/
theorem failed_start (h : Reachable w) (n : NewContact)
    (hactor : ∀ x, w.actors.get? n.conversationId ≠ some (.live x))
    (hstored : w.stores.stored n.conversationId = none) {e : RuntimeError}
    (he : (w.call (.begin n)).2 = .error e) (hsize : ∀ size, e ≠ .mailboxTooLarge size) :
    (w.LeavesNothing n.conversationId (w.call (.begin n)).1 ↔ ¬ w.Starts n) ∧
      (w.Starts n → w.LeavesActor n e (w.call (.begin n)).1) := by
  cases ha : w.actors.get? n.conversationId with
  -- where an actor was registered one more conversation runs, so something is left
  | none =>
    have hactor' := begin_of_starts h.sound ⟨ha, hstored⟩ (n := n) (e := e)
    refine ⟨⟨?_, ?_⟩, fun hs => hactor' hs he⟩
    · intro hnothing hs
      have hcount := (hactor' hs he).count
      rw [hnothing.count] at hcount
      omega
    · intro hs
      obtain ⟨log, hlog⟩ := begin_of_not_starts ⟨ha, hstored⟩ hs he hsize
      rw [hlog]
      exact leavesNothing_relogged h.sound hstored log
  | some a =>
    cases a with
    | live x => exact absurd ha (hactor x)
    | dead =>
      -- the actor has broken down and refuses the contact
      have hfind : w.findOrStart n = (w, .ok n.conversationId) := by
        rw [findOrStart, find, if_pos (by simp [Dict.contains, ha])]
      have hsame : (w.call (.begin n)).1 = w := by simp only [Manager.call, hfind, send, ha]
      have hnot : ¬ w.Starts n := by
        rintro ⟨x, hx⟩
        rw [hfind, ha] at hx
        cases hx
      rw [hsame]
      exact ⟨iff_of_true (leavesNothing_relogged h.sound hstored w.stores.log) hnot,
        fun hs => absurd hs hnot⟩

/-- A contact for a version that is not there leaves nothing; one for a snapshot that cannot
    be put leaves an actor. -/
theorem failed_starts_of_booking :
    let unstocked := fresh (stocked []) (fun _ => none) 1
    let full := fresh (failing .putSnapshot (stocked [booking [] ""])) (fun _ => none) 1
    (unstocked.call (.begin visitor)).2 = .error (.versionNotFound "booking" "v1") ∧
      unstocked.LeavesNothing "c1" (unstocked.call (.begin visitor)).1 ∧
      (full.call (.begin visitor)).2 = .error (.snapshot "full") ∧
      full.LeavesActor visitor (.snapshot "full") (full.call (.begin visitor)).1 := by
  intro unstocked full
  have hnone : ∀ x, unstocked.actors.get? "c1" ≠ some (.live x) := by rintro x ⟨⟩
  have hnot : ¬ unstocked.Starts visitor := by rintro ⟨x, ⟨⟩⟩
  have hstarts : full.Starts visitor := ⟨_, rfl⟩
  refine ⟨rfl, ?_, rfl, ?_⟩
  · exact (failed_start (.fresh fun _ => rfl) visitor hnone rfl rfl (by rintro _ ⟨⟩)).1.2 hnot
  · exact (failed_start (.fresh fun _ => rfl) visitor (by rintro x ⟨⟩) rfl rfl (by rintro _ ⟨⟩)).2
      hstarts

/-- The snapshot of a new conversation could not be put, and the contact was answered so.
    The conversation counts as running all the same, has a task, and goes on to another as
    soon as it can be stored. -/
theorem registered_without_a_snapshot :
    let w := fresh (failing .putSnapshot (stocked [booking [] ""])) (fun _ => none) 1
    let w' := (w.call (.begin visitor)).1
    let healed := w'.alter id w'.stores.clock fun _ => none
    Reachable w ∧ w.Absent "c1" ∧ (w.call (.begin visitor)).2 = .error (.snapshot "full") ∧
      w.runningCount = 0 ∧ (w.call (.currentTask "c1")).2 = .error (.unknownConversation "c1") ∧
      w'.runningCount = 1 ∧ (∃ t, (w'.call (.currentTask "c1")).2 = .ok (.task (some t))) ∧
      (∃ t, (healed.call (.request "c1" "book")).2 = .ok (.transition (.accepted t))) ∧
      ((healed.call (.request "c1" "book")).1.stores.stored "c1").isSome := by
  intro w w' healed
  exact ⟨.fresh fun _ => rfl, ⟨rfl, rfl⟩, rfl, rfl, rfl, rfl, ⟨_, rfl⟩, ⟨_, rfl⟩, rfl⟩

end Manager
end Dialogue.Live
