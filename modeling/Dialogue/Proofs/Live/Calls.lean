import Dialogue.Live.Manager
import Dialogue.Proofs.Live.Commands

/-! # What a call does before its command is handled

    A call looks its conversation up: there is an actor for it, or its snapshot is read and a
    machine for it looked up (`Found`), or it is started on a machine (`Reached`). None of this
    changes what is stored or the actors of other conversations (`Manager.Consulted`). -/

namespace Dialogue.Live

open Time Dialogue.Flow Conversation StateMachine Memory

namespace Manager

/-- Only the log and the cache of machines have changed. A machine that is new in the cache was
    compiled from the version of some flow and version id, and is filed under its key. -/
structure Consulted (w w' : Manager) : Prop where
  hooks : w'.hooks = w.hooks
  mailboxSize : w'.mailboxSize = w.mailboxSize
  actors : w'.actors = w.actors
  stores : w.stores.Same w'.stores
  definitions : ∀ k m, w'.definitions.get? k = some m → w.definitions.get? k = some m ∨
    ∃ f v ver, k = machineId f v ∧ w.stores.backend.getVersion f v = .ok (some ver) ∧
    compile ver = .ok m
  kept : ∀ k m, w.definitions.get? k = some m → w'.definitions.get? k = some m

theorem Consulted.refl (w : Manager) : w.Consulted w :=
  ⟨rfl, rfl, rfl, .refl _, fun _ _ h => .inl h, fun _ _ h => h⟩

theorem Consulted.trans {u v w : Manager} (h : u.Consulted v) (h' : v.Consulted w) :
    u.Consulted w := by
  refine ⟨h'.hooks.trans h.hooks, h'.mailboxSize.trans h.mailboxSize, h'.actors.trans h.actors,
    h.stores.trans h'.stores, ?_, ?_⟩
  · intro k m hm
    rcases h'.definitions k m hm with hm | ⟨f, x, ver, hk, hver, hc⟩
    · exact h.definitions k m hm
    · rw [h.stores.versions] at hver
      exact .inr ⟨f, x, ver, hk, hver, hc⟩
  · intro k m hm
    exact h'.kept k m (h.kept k m hm)

theorem consulted_of_same {w : Manager} {s : Stores} (h : w.stores.Same s) :
    w.Consulted { w with stores := s } :=
  ⟨rfl, rfl, rfl, h, fun _ _ h => .inl h, fun _ _ h => h⟩

/-- A machine is compiled when it is read for a version and the version compiles. -/
theorem compileRead_eq_ok {f v : String} {r : Except RuntimeError (Option Version)} {m : Machine}
    (h : compileRead f v r = .ok m) : ∃ ver, r = .ok (some ver) ∧ compile ver = .ok m := by
  unfold compileRead at h
  split at h
  · cases h
  · cases h
  · rename_i ver
    exact ⟨ver, rfl, mapError_eq_ok.1 h⟩

/-- A machine is taken from the cache, or its version is read and compiled. -/
theorem definition_cases (w : Manager) (f v : String) :
    (∃ m, w.definitions.get? (machineId f v) = some m ∧ w.definition f v = (w, .ok m)) ∨
      w.definitions.get? (machineId f v) = none ∧
        (w.definition f v).2 = compileRead f v (w.stores.getVersion f v).2 ∧
        (∀ m, (w.definition f v).2 = .ok m → (w.definition f v).1 =
          { w with stores := (w.stores.getVersion f v).1,
                   definitions := w.definitions.insert (machineId f v) m }) ∧
        ∀ e, (w.definition f v).2 = .error e → (w.definition f v).1 =
          { w with stores := (w.stores.getVersion f v).1 } := by
  unfold definition
  simp only
  cases hget : w.definitions.get? (machineId f v) with
  | some m => exact .inl ⟨m, rfl, rfl⟩
  | none =>
    right
    refine ⟨rfl, ?_⟩
    simp only
    cases compileRead f v (w.stores.getVersion f v).2 with
    | ok m =>
      refine ⟨rfl, ?_, by rintro _ ⟨⟩⟩
      rintro _ ⟨⟩
      rfl
    | error e =>
      refine ⟨rfl, by rintro _ ⟨⟩, ?_⟩
      rintro _ ⟨⟩
      rfl

/-- A version that could be read is the one of the backend. -/
theorem getVersion_ok {s : Stores} {f v : String} {r : Option Version}
    (h : (s.getVersion f v).2 = .ok r) :
    s.backend.getVersion f v = .ok r := by
  unfold Stores.getVersion at h
  cases hfault : s.faults .getVersion with
  | some fault => simp [Stores.attempt, hfault] at h
  | none => simpa [Stores.attempt, hfault] using h

theorem definition_consulted (w : Manager) (f v : String) : w.Consulted (w.definition f v).1 := by
  rcases w.definition_cases f v with ⟨m, -, h⟩ | ⟨hnone, hread, hok, herror⟩
  · rw [h]
    exact .refl w
  · have hsame := w.stores.getVersion_same f v
    cases hr : (w.definition f v).2 with
    | error e =>
      rw [herror e hr]
      exact consulted_of_same hsame
    | ok m =>
      rw [hok m hr]
      obtain ⟨ver, hver, hc⟩ := compileRead_eq_ok (hread ▸ hr)
      refine ⟨rfl, rfl, rfl, hsame, ?_, ?_⟩
      -- the one new machine is that of the version that was read
      · intro k m' hm
        rw [Dict.get?_insert] at hm
        split at hm
        · rename_i hk
          cases hm
          exact .inr ⟨f, v, ver, hk, getVersion_ok hver, hc⟩
        · exact .inl hm
      -- what was cached before is still there, since this key was not
      · intro k m' hm
        have hk : k ≠ machineId f v := by
          rintro rfl
          rw [hnone] at hm
          cases hm
        rw [Dict.get?_insert, if_neg hk, hm]

/-- A machine that is answered is in the cache. -/
theorem definition_cached {w w' : Manager} {f v : String} {m : Machine}
    (h : w.definition f v = (w', .ok m)) :
    w'.definitions.get? (machineId f v) = some m := by
  rcases w.definition_cases f v with ⟨m', hget, hdef⟩ | ⟨-, -, hok, -⟩
  · rw [hdef] at h
    cases h
    exact hget
  · rw [h] at hok
    obtain rfl : w' = _ := hok m rfl
    simp

/-! ### Finding a conversation -/

/-- How a conversation is looked up. -/
inductive Found (w : Manager) (c : String) : Manager × Except RuntimeError (Option String) → Prop
  /-- It has an actor. -/
  | there {a : Actor} : w.actors.get? c = some a → Found w c (w, .ok (some c))
  | failed {w' : Manager} {e : RuntimeError} : w.actors.get? c = none → w.Consulted w' →
      Found w c (w', .error e)
  /-- Nothing is stored of it. -/
  | unknown {w' : Manager} : w.actors.get? c = none → w.Consulted w' → w.stores.stored c = none →
      Found w c (w', .ok none)
  /-- It is taken up from its snapshot. -/
  | loaded {w' : Manager} {s : Snapshot} {m : Machine} {x : Session} : w.actors.get? c = none →
      w.Consulted w' →
      w.stores.stored c = some s → w'.definitions.get? (machineId s.flowId s.versionId) = some m →
      Session.resume m s = .ok x →
      Found w c ({ w' with actors := w'.actors.insert c (.live x) }, .ok (some c))

/-- How the conversation of a new contact is reached. -/
inductive Reached (w : Manager) (n : NewContact) : Manager × Except RuntimeError String → Prop
  | found {w' : Manager} {key : String} : w.Found n.conversationId (w', .ok (some key)) →
      Reached w n (w', .ok key)
  | failed {w' : Manager} {e : RuntimeError} : w.actors.get? n.conversationId = none →
      w.Consulted w' → Reached w n (w', .error e)
  /-- It is new, and starts on the machine of the version that is named. -/
  | started {w' : Manager} {m : Machine} : w.actors.get? n.conversationId = none → w.Consulted w' →
      w.stores.stored n.conversationId = none →
      w'.definitions.get? (machineId n.flowId n.versionId) = some m →
      Reached w n
        ({ w' with actors := w'.actors.insert n.conversationId (.live (n.start w.stores.clock m)) },
        .ok n.conversationId)

/-- An actor is registered for a conversation that has none, unless no mailbox can be
    made for it. -/
theorem spawn_cases {w : Manager} {x : Session} (h : w.actors.get? x.conversationId = none) :
    w.spawn x = ({ w with actors := w.actors.insert x.conversationId (.live x) },
        .ok x.conversationId) ∨
      ∃ e, w.spawn x = (w, .error e) := by
  have hcontains : w.actors.contains x.conversationId = false := by simp [Dict.contains, h]
  simp only [spawn, hcontains, Bool.false_eq_true, if_false]
  split
  · exact .inl rfl
  · exact .inr ⟨_, rfl⟩

theorem found_load {w : Manager} {c : String} (h : w.actors.get? c = none)
    (hid : ∀ s, w.stores.stored c = some s → s.context.conversationId = c) :
    w.Found c (w.load c) := by
  have hsame := w.stores.getSnapshot_same c
  unfold load
  cases hg : w.stores.getSnapshot c with
  | mk t r =>
    rw [hg] at hsame
    have hread := consulted_of_same hsame
    -- the cases follow the look-up: the snapshot, its version, the fingerprint, the mailbox
    cases r with
    | error e => exact .failed h hread
    | ok r =>
      have hstored : w.stores.stored c = r := Stores.getSnapshot_eq (by rw [hg])
      cases r with
      | none => exact .unknown h hread hstored
      | some s =>
        simp only
        have hdef := hread.trans (definition_consulted _ s.flowId s.versionId)
        cases hm : ({ w with stores := t } : Manager).definition s.flowId s.versionId with
        | mk w' rm =>
          rw [hm] at hdef
          cases rm with
          | error e => exact .failed h hdef
          | ok m =>
            have hcached := definition_cached hm
            simp only
            cases hx : Session.resume m s with
            | error e => exact .failed h hdef
            | ok x =>
              obtain ⟨-, -, rfl⟩ := Session.resume_eq_ok.1 hx
              have hc : (Session.mk m s.state).conversationId = c := hid s hstored
              have hnone : w'.actors.get? (Session.mk m s.state).conversationId = none := by
                rw [hc, hdef.actors, h]
              simp only
              rcases spawn_cases hnone with hs | ⟨e, hs⟩
              · rw [hs, hc]
                exact .loaded h hdef hstored hcached hx
              · rw [hs]
                exact .failed h hdef

theorem found_find {w : Manager} {c : String}
    (hid : ∀ s, w.stores.stored c = some s → s.context.conversationId = c) :
    w.Found c (w.find c) := by
  unfold find
  cases h : w.actors.get? c with
  | none =>
    rw [if_neg (by simp [Dict.contains, h])]
    exact found_load h hid
  | some a =>
    rw [if_pos (by simp [Dict.contains, h])]
    exact .there h

theorem reached_findOrStart {w : Manager} {n : NewContact}
    (hid : ∀ s, w.stores.stored n.conversationId = some s →
        s.context.conversationId = n.conversationId) :
    w.Reached n (w.findOrStart n) := by
  have hfound := found_find hid
  unfold findOrStart
  cases hf : w.find n.conversationId with
  | mk w₁ r =>
    rw [hf] at hfound
    cases r with
    | error e =>
      cases hfound with
      | failed h hc => exact .failed h hc
    | ok key =>
      cases key with
      | some key => exact .found hfound
      -- a conversation that is unknown starts on the version the contact names
      | none =>
        cases hfound with
        | unknown h hc hstored =>
          have hdef := hc.trans (w₁.definition_consulted n.flowId n.versionId)
          simp only
          cases hm : w₁.definition n.flowId n.versionId with
          | mk w₂ rm =>
            rw [hm] at hdef
            cases rm with
            | error e => exact .failed h hdef
            | ok m =>
              have hcached := definition_cached hm
              simp only
              rw [hdef.stores.clock]
              have hnone : w₂.actors.get? (n.start w.stores.clock m).conversationId = none := by
                rw [hdef.actors]
                exact h
              rcases spawn_cases hnone with hs | ⟨e, hs⟩
              · rw [hs]
                exact .started h hdef hstored hcached
              · rw [hs]
                exact .failed h hdef

/-! ### Sending a command -/

/-- What comes of a command that is sent to the actor under the key, whose session is `x`. -/
inductive Sent (w : Manager) (key : String) (x : Session) (c : Command) : Manager × Answer → Prop
  | goOn {t : Stores} {y : Session} {a : Answer} : Handled w.hooks w.stores x c (t, .goOn y a) →
      Sent w key x c ({ w with stores := t, actors := w.actors.insert key (.live y) }, a)
  | stop {t : Stores} {a : Answer} : Handled w.hooks w.stores x c (t, .stop a) →
      Sent w key x c ({ w with stores := t, actors := w.actors.insert key .dead }, a)
  | breakDown {t : Stores} : Handled w.hooks w.stores x c (t, .breakDown) →
      Sent w key x c ({ w with stores := t, actors := w.actors.insert key .dead },
        .error (.conversationClosed key))

/-- What a command to an actor with the session `x` may do: the actor and the snapshot
    under its key are replaced, and the session of an actor that goes on is the one stored,
    or nothing has changed. -/
structure Effect (w : Manager) (key : String) (x : Session) (t : Stores) (a : Actor) : Prop where
  keeps : w.stores.Keeps t
  others : ∀ k, k ≠ key → t.stored k = w.stores.stored k
  stored : ∀ u, t.stored key = some u → w.stores.stored key = some u ∨ ∃ y, a = .live y ∧
      u = y.snapshot
  goesOn : ∀ y, a = .live y → y.conversationId = key ∧ y.machine = x.machine ∧
    (y = x ∧ t.stored key = w.stores.stored key ∨ t.stored key = some y.snapshot)

theorem effect_of_same {w : Manager} {key : String} {x : Session} {t : Stores} {a : Actor}
    (h : w.stores.Same t) (hid : x.conversationId = key) (ha : ∀ y, a = .live y → y = x) :
    w.Effect key x t a where
  keeps := h.toKeeps
  others k _ := h.stored k
  stored u hu := .inl ((h.stored key).symm.trans hu)
  goesOn y hy := by
    obtain rfl := ha y hy
    exact ⟨hid, rfl, .inl ⟨rfl, h.stored key⟩⟩

theorem sent_effect {w w' : Manager} {key : String} {x : Session} {c : Command} {answer : Answer}
    (hid : x.conversationId = key) (h : w.Sent key x c (w', answer)) :
    ∃ t a, w' = { w with stores := t, actors := w.actors.insert key a } ∧ w.Effect key x t a := by
  cases h with
  | @goOn t y a hh =>
    refine ⟨t, .live y, rfl, ?_⟩
    cases hh with
    | kept hsame _ _ => exact effect_of_same hsame hid (by rintro _ ⟨⟩; rfl)
    -- the new session is the one stored, and nothing else has changed
    | changed hchange hstored =>
      obtain ⟨hkeep, hmachine⟩ := changes_keep hchange
      have hkey : y.conversationId = key := hkeep.trans hid
      have hnow : t.stored key = some y.snapshot := by rw [hstored.stored, hkey, if_pos rfl]
      refine ⟨hstored.toKeeps, ?_, ?_, ?_⟩
      · intro k hk
        rw [hstored.stored, hkey, if_neg hk]
      · intro u hu
        rw [hnow] at hu
        exact .inr ⟨y, rfl, (Option.some.inj hu).symm⟩
      · rintro _ ⟨⟩
        exact ⟨hkey, hmachine, .inr hnow⟩
  | @stop t a hh =>
    refine ⟨t, .dead, rfl, ?_⟩
    cases hh with
    -- the snapshot may have gone; no other has
    | closed _ hkeeps hothers _ =>
      refine ⟨hkeeps, ?_, ?_, by rintro _ ⟨⟩⟩
      · intro k hk
        rcases hothers k with hk' | ⟨hk', -⟩
        · exact hk'
        · exact absurd (hk'.trans hid) hk
      · intro u hu
        rcases hothers key with hk | ⟨-, hk⟩
        · exact .inl (hk.symm.trans hu)
        · rw [hk] at hu
          cases hu
    | shutDown => exact effect_of_same (.refl _) hid (by rintro _ ⟨⟩)
  | @breakDown t hh =>
    refine ⟨t, .dead, rfl, ?_⟩
    cases hh with
    | brokeDown hsame _ => exact effect_of_same hsame hid (by rintro _ ⟨⟩)

theorem sent_live {w : Manager} {key : String} {x : Session}
    (h : w.actors.get? key = some (.live x)) (hx : x.machine.Closed) (c : Command) :
    w.Sent key x c (w.send key c) := by
  have hhandled : Handled w.hooks w.stores x c (Actor.handle w.hooks w.stores x c) :=
    Actor.handled hx c
  unfold send
  simp only [h]
  cases hr : Actor.handle w.hooks w.stores x c with
  | mk t r =>
    rw [hr] at hhandled
    cases r with
    | goOn y a => exact .goOn hhandled
    | stop a => exact .stop hhandled
    | breakDown => exact .breakDown hhandled

/-- A command goes to an actor that lives, or is refused. -/
theorem send_cases {w : Manager} {key : String} (c : Command)
    (hclosed : ∀ x, w.actors.get? key = some (.live x) → x.machine.Closed) :
    (∃ x, w.actors.get? key = some (.live x) ∧ w.Sent key x c (w.send key c)) ∨
      w.send key c = (w, .error (.conversationClosed key)) := by
  by_cases hlive : ∃ x, w.actors.get? key = some (.live x)
  · obtain ⟨x, hx⟩ := hlive
    exact .inl ⟨x, hx, sent_live hx (hclosed x hx) c⟩
  · right
    unfold send
    split
    · rename_i x hx
      exact absurd ⟨x, hx⟩ hlive
    · rfl

end Manager
end Dialogue.Live
