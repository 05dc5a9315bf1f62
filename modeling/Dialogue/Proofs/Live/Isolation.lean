import Dialogue.Proofs.Live.FailedStart
import Dialogue.Proofs.Live.Holdings

/-! # Conversations do not touch each other

    A call reaches the registry and the stores under one id: the caller's, which is also the id in
    the session of the actor and in the snapshot (`Manager.Sound`). So whatever comes of it, the
    other conversations keep their actors and all that is held of them
    (`conversations_are_isolated`). -/

namespace Dialogue.Live

open Time Dialogue.Flow Conversation StateMachine Memory

namespace Manager

/-- Both have the same actor for the conversation, in the same session, and hold the same of it. -/
structure SameFor (d : String) (w w' : Manager) : Prop where
  actor : w'.actors.get? d = w.actors.get? d
  holding : w'.stores.backend.holding d = w.stores.backend.holding d

variable {w w' : Manager} {c d : String}

theorem SameFor.refl (d : String) (w : Manager) : SameFor d w w := ⟨rfl, rfl⟩

theorem SameFor.trans {w'' : Manager} (h : SameFor d w w') (h' : SameFor d w' w'') :
    SameFor d w w'' :=
  ⟨h'.actor.trans h.actor, h'.holding.trans h.holding⟩

theorem SameFor.erasing (h : SameFor d w w') (hd : d ≠ c) :
    SameFor d w { w' with actors := w'.actors.erase c } :=
  ⟨by rw [Dict.get?_erase, if_neg hd, h.actor], h.holding⟩

/-- Another conversation gets an actor. -/
theorem SameFor.inserting (h : SameFor d w w') (hd : d ≠ c) (a : Actor) :
    SameFor d w { w' with actors := w'.actors.insert c a } :=
  ⟨by rw [Dict.get?_insert, if_neg hd, h.actor], h.holding⟩

theorem sameFor_of_relogged {log : List Operation} (hactors : w'.actors = w.actors)
    (hstores : w'.stores = w.stores.relogged log) : SameFor d w w' :=
  ⟨by rw [hactors], by rw [hstores]; rfl⟩

/-! ### The parts of a call -/

theorem find_sameFor (hw : w.Sound) (hd : d ≠ c) : SameFor d w (w.find c).1 := by
  obtain ⟨log, hlog⟩ := w.find_relogged c
  have hfound := found_find (hw.storedUnder c)
  cases hf : w.find c with
  | mk w₁ r =>
    rw [hf] at hfound hlog
    cases hfound with
    | there _ => exact .refl d w
    | failed _ hc => exact sameFor_of_relogged hc.actors hlog
    | unknown _ hc _ => exact sameFor_of_relogged hc.actors hlog
    | loaded _ hc _ _ _ => exact (sameFor_of_relogged hc.actors hlog).inserting hd _

theorem findOrStart_sameFor {n : NewContact} (hw : w.Sound) (hd : d ≠ n.conversationId) :
    SameFor d w (w.findOrStart n).1 := by
  obtain ⟨log, hlog⟩ := w.findOrStart_relogged n
  have hreached := reached_findOrStart (hw.storedUnder n.conversationId)
  cases hf : w.findOrStart n with
  | mk w₁ r =>
    rw [hf] at hreached hlog
    cases hreached with
    | found hfound =>
      cases hfound with
      | there _ => exact .refl d w
      | loaded _ hc _ _ _ => exact (sameFor_of_relogged hc.actors hlog).inserting hd _
    | failed _ hc => exact sameFor_of_relogged hc.actors hlog
    | started _ hc _ _ => exact (sameFor_of_relogged hc.actors hlog).inserting hd _

/-- An actor works under the id of its session, which is its key. -/
theorem send_sameFor (hw : w.Sound) (hd : d ≠ c) (cmd : Command) :
    SameFor d w (w.send c cmd).1 := by
  unfold send
  split
  · rename_i x hx
    have hid : x.conversationId = c := (hw.fits c x hx).id
    have hothers := Actor.handle_onlyChanges w.hooks w.stores x cmd
    rw [hid] at hothers
    rcases hh : Actor.handle w.hooks w.stores x cmd with ⟨t, _ | _ | _⟩
    all_goals
      rw [hh] at hothers
      exact ⟨by simp [hd], hothers d hd⟩
  · exact .refl d w

theorem command_sameFor (hw : w.Sound) (hd : d ≠ c) (cmd : Command) :
    SameFor d w (w.command c cmd).1 := by
  have hfind := find_sameFor hw hd
  have hfound := found_find (hw.storedUnder c)
  unfold command
  rcases hf : w.find c with ⟨w₁, e | _ | key⟩
  all_goals
    rw [hf] at hfind hfound
  · exact hfind
  · exact hfind
  · obtain ⟨rfl, -⟩ := found_state hfound
    exact hfind.trans (send_sameFor (hw.found hfound) hd cmd)

/-! ### Calls and runs -/

/-- A call that is not on the conversation leaves it. -/
theorem call_sameFor (hw : w.Sound) {call : Call} (hd : ∀ cmd, call.target ≠ some (d, cmd)) :
    SameFor d w (w.call call).1 := by
  -- whatever conversation the call is on, it is another one
  have hne {k : String} {cmd : Command} (ht : call.target = some (k, cmd)) : d ≠ k := by
    rintro rfl
    exact hd cmd ht
  cases call with
  | begin n =>
    have hn : d ≠ n.conversationId := hne rfl
    have hfind := findOrStart_sameFor hw hn
    have hreached := reached_findOrStart (hw.storedUnder n.conversationId)
    unfold Manager.call
    simp only
    rcases hf : w.findOrStart n with ⟨w₁, e | key⟩
    all_goals
      rw [hf] at hfind hreached
    · exact hfind
    · obtain ⟨rfl, -⟩ := reached_state hreached
      exact hfind.trans (send_sameFor (hw.reached hreached) hn _)
  | endContact c e =>
    have hcommand := command_sameFor hw (hne rfl) (.endContact e)
    simp only [Manager.call]
    split
    · exact hcommand.erasing (hne rfl)
    · exact hcommand
  | unload c => exact (SameFor.refl d w).erasing (hne rfl)
  | definition f v =>
    obtain ⟨log, hlog⟩ := w.definition_relogged f v
    exact sameFor_of_relogged (w.definition_consulted f v).actors hlog
  | runningCount => exact .refl d w
  | request c target => exact command_sameFor hw (hne rfl) _
  | update c contactId us writer => exact command_sameFor hw (hne rfl) _
  | currentTask c => exact command_sameFor hw (hne rfl) _
  | snapshot c => exact command_sameFor hw (hne rfl) _

/-- The step is no call on the conversation, and leaves the snapshots and what is held of it. -/
def Step.Spares (d : String) : Step → Prop
  | .call c => ∀ cmd, c.target ≠ some (d, cmd)
  | .meanwhile change _ _ =>
    (∀ b c, (change b).stored c = b.stored c) ∧ ∀ b, (change b).holding d = b.holding d

theorem Step.Spares.keepsSnapshots {s : Step} (h : s.Spares d) : s.KeepsSnapshots := by
  cases s with
  | call call => trivial
  | meanwhile change clock faults => exact h.1

theorem step_sameFor {s : Step} (hw : w.Sound) (h : s.Spares d) : SameFor d w (w.step s) := by
  cases s with
  | call call => exact call_sameFor hw h
  | meanwhile change clock faults => exact ⟨rfl, h.2 w.stores.backend⟩

/-- A run without calls on the conversation leaves it. -/
theorem run_sameFor {steps : List Step} (hw : w.Sound) (h : ∀ s ∈ steps, s.Spares d) :
    SameFor d w (w.run steps) := by
  induction steps generalizing w with
  | nil => exact .refl d w
  | cons s steps ih =>
    have hs := h s (.head _)
    exact (step_sameFor hw hs).trans (ih (hw.step hs.keepsSnapshots) fun s hs => h s (.tail _ hs))

/-- A call on one conversation, whatever comes of it, leaves every other: its actor and the session
    of the actor, its snapshot, both buckets of its memory and when they expire. -/
theorem conversations_are_isolated (h : Reachable w) (call : Call)
    (hd : ∀ cmd, call.target ≠ some (d, cmd)) :
    (w.call call).1.actors.get? d = w.actors.get? d ∧
      (w.call call).1.stores.backend.holding d = w.stores.backend.holding d :=
  have hsame := call_sameFor h.sound hd
  ⟨hsame.actor, hsame.holding⟩

/-- A visitor of another conversation, whose name is asked for. -/
def neighbour : NewContact := ⟨"c2", "k2", "booking", "v1", .phone⟩

/-- Two conversations, and what the neighbour was called. -/
def visits : List Step :=
  [.call (.begin visitor), .call (.begin neighbour),
    .call (.update "c2" "k2" [{ variableId := "name", value := .string "Ada" }] (.tool "crm"))]

/-- A conversation is closed, and its memory cannot be deleted. The other one, with a name
    in its memory, goes on. -/
theorem closing_leaves_the_neighbour :
    let w := (fresh (failing .deleteMemory (stocked [booking ["name"] ""])) (fun _ => none) 1).run
      visits
    let ending : Call := .endContact "c1" { contactId := "k1" }
    closes (w.call ending).2 = true ∧ (w.stores.stored "c2").isSome ∧
    ¬ (w.stores.backend.holding "c2").Forgotten ∧
      (w.call ending).1.actors.get? "c2" = w.actors.get? "c2" ∧
      (w.call ending).1.stores.backend.holding "c2" = w.stores.backend.holding "c2" := by
  intro w ending
  have h : Reachable w := .call _ (.call _ (.call _ (.fresh fun _ => rfl)))
  have hother : ∀ cmd, ending.target ≠ some ("c2", cmd) := by simp [ending, Call.target]
  exact ⟨rfl, rfl, by rintro ⟨⟩, conversations_are_isolated h ending hother⟩

end Manager
end Dialogue.Live
