import Dialogue.Proofs.Live.Durability
import Dialogue.Proofs.Live.Runs

/-! # Conversations that are not there

    A conversation without an actor and a snapshot is not found, and commands for it are refused
    (`command_absent`). A contact for it looks the version up and registers an actor (`Started`);
    nothing else makes it known. -/

namespace Dialogue.Live

open Time Dialogue.Flow Conversation StateMachine Memory

namespace Stores

variable (s : Stores)

/-- Reading is only logged. -/
theorem getSnapshot_relogged (c : String) : ∃ log, (s.getSnapshot c).1 = s.relogged log := by
  unfold getSnapshot
  cases h : s.faults .getSnapshot <;> simp only [attempt, h] <;> exact ⟨_, rfl⟩

theorem getVersion_relogged (f v : String) : ∃ log, (s.getVersion f v).1 = s.relogged log := by
  unfold getVersion
  cases h : s.faults .getVersion <;> simp only [attempt, h] <;> exact ⟨_, rfl⟩

end Stores

namespace Manager

/-- Nothing is known of the conversation. -/
structure Absent (w : Manager) (c : String) : Prop where
  actor : w.actors.get? c = none
  stored : w.stores.stored c = none

variable {w w' : Manager} {c : String}

/-! ### Looking for it -/

/-- It is not found, unless its snapshot cannot be read. -/
theorem find_absent (h : w.Absent c) :
    ∃ log, w.find c = (w.relogged log, .ok none) ∨
      ∃ e, (w.stores.getSnapshot c).2 = .error e ∧ w.find c = (w.relogged log, .error e) := by
  obtain ⟨log, hlog⟩ := w.stores.getSnapshot_relogged c
  refine ⟨log, ?_⟩
  rw [find, if_neg (by simp [Dict.contains, h.actor]), load]
  cases hg : w.stores.getSnapshot c with
  | mk t r =>
    rw [hg] at hlog
    subst hlog
    cases r with
    | error e => exact .inr ⟨e, rfl, rfl⟩
    | ok r =>
      obtain rfl : none = r := h.stored.symm.trans (Stores.getSnapshot_eq (by rw [hg]))
      exact .inl rfl

/-- A command for it is refused, or its snapshot could not be read. -/
theorem command_absent (h : w.Absent c) (cmd : Command) :
    (w.command c cmd).2 = .error (.unknownConversation c) ∨
    ∃ e, (w.stores.getSnapshot c).2 = .error e ∧ (w.command c cmd).2 = .error e := by
  obtain ⟨log, hf | ⟨e, he, hf⟩⟩ := find_absent h
  · exact .inl (by rw [command, hf])
  · exact .inr ⟨e, he, by rw [command, hf]⟩

/-- A machine that cannot be had leaves the manager as it was. -/
theorem definition_error {f v : String} {e : RuntimeError} (h : w.definition f v = (w', .error e)) :
    ∃ log, w' = w.relogged log := by
  rcases w.definition_cases f v with ⟨m, -, hd⟩ | ⟨-, -, -, herr⟩
  · rw [hd] at h
    cases h
  · obtain ⟨log, hlog⟩ := w.stores.getVersion_relogged f v
    refine ⟨log, ?_⟩
    rw [h] at herr
    rw [relogged, ← hlog]
    exact herr e rfl

/-! ### Starting it -/

/-- How the start of a conversation that is not there comes out. -/
inductive Started (w : Manager) (n : NewContact) : Manager × Except RuntimeError String → Prop
  | failed {log : List Operation} {e : RuntimeError} : Started w n (w.relogged log, .error e)
  | tooLarge {w' : Manager} {size : Nat} :
      w.Consulted w' → Started w n (w', .error (.mailboxTooLarge size))
  | registered {w' : Manager} {m : Machine} : w.Consulted w' →
      w'.definitions.get? (machineId n.flowId n.versionId) = some m →
      w'.mailboxSize ≤ largestMailbox →
      Started w n
        ({ w' with actors := w'.actors.insert n.conversationId (.live (n.start w.stores.clock m)) },
        .ok n.conversationId)

/-- Without an actor for its conversation a session is registered, if it can have a mailbox. -/
theorem spawn_new {x : Session} (h : w.actors.get? x.conversationId = none) :
    w.spawn x = if w.mailboxSize ≤ largestMailbox then
      ({ w with actors := w.actors.insert x.conversationId (.live x) }, .ok x.conversationId)
      else (w, .error (.mailboxTooLarge w.mailboxSize)) := by
  rw [spawn, if_neg (by simp [Dict.contains, h])]

theorem started_absent {n : NewContact} (h : w.Absent n.conversationId) :
    w.Started n (w.findOrStart n) := by
  obtain ⟨log, hf | ⟨e, -, hf⟩⟩ := find_absent h
  -- the look-up has found nothing; the version is compiled next
  · have hlogged : w.Consulted (w.relogged log) := consulted_of_same (w.stores.same_relogged log)
    have hconsulted := hlogged.trans ((w.relogged log).definition_consulted n.flowId n.versionId)
    rw [findOrStart, hf]
    simp only
    cases hd : (w.relogged log).definition n.flowId n.versionId with
    | mk w₁ r =>
      rw [hd] at hconsulted
      cases r with
      | error e =>
        obtain ⟨log', rfl⟩ := definition_error hd
        exact .failed
      | ok m =>
        have hclock : w₁.stores.clock = w.stores.clock := hconsulted.stores.clock
        have hnone : w₁.actors.get? n.conversationId = none := by rw [hconsulted.actors, h.actor]
        simp only
        rw [hclock, spawn_new (x := n.start w.stores.clock m) hnone]
        split
        · rename_i hsize
          exact .registered hconsulted (definition_cached hd) hsize
        · exact .tooLarge hconsulted
  · rw [findOrStart, hf]
    exact .failed

/-! ### What leaves it as it is -/

theorem Absent.of_inserted {k : String} {a : Actor} (h : w.Absent c) (hk : c ≠ k) :
    Absent { w with actors := w.actors.insert k a } c :=
  ⟨by rw [Dict.get?_insert, if_neg hk, h.actor], h.stored⟩

theorem Absent.consulted (h : w.Absent c) (hc : w.Consulted w') : w'.Absent c :=
  ⟨by rw [hc.actors, h.actor], by rw [hc.stores.stored, h.stored]⟩

theorem Absent.found {k : String} {r : Except RuntimeError (Option String)} (h : w.Absent c)
    (hf : w.Found k (w', r)) : w'.Absent c := by
  cases hf with
  | there _ => exact h
  | failed _ hc => exact h.consulted hc
  | unknown _ hc _ => exact h.consulted hc
  | loaded _ hc hstored _ _ =>
    refine (h.consulted hc).of_inserted ?_
    rintro rfl
    rw [h.stored] at hstored
    cases hstored

theorem Absent.sent {key : String} {x : Session} {cmd : Command} {a : Answer} (hw : w.Sound)
    (h : w.Absent c) (hx : w.actors.get? key = some (.live x)) (hs : w.Sent key x cmd (w', a)) :
    w'.Absent c := by
  have hne : c ≠ key := by
    rintro rfl
    rw [h.actor] at hx
    cases hx
  obtain ⟨t, actor, rfl, he⟩ := sent_effect (hw.fits key x hx).id hs
  exact ⟨by simp [hne, h.actor], (he.others c hne).trans h.stored⟩

end Manager
end Dialogue.Live
