import Dialogue.Proofs.Live.Orderly

/-! # What a turn does to the actors

    Of all that a turn can come to, only four things concern the registry, the actors and what is
    stored (`Floor.Effect`): an unload takes a conversation out of the registry, a call registers an
    actor, a call that has closed its conversation takes it out, or an actor handles a command. The
    registry changes only while no other call unloads a conversation. -/

namespace Dialogue.Live

open Time Dialogue.Flow Conversation StateMachine Memory

/-! ### Who lives -/

/-- The actor with the number lives, for the conversation `k` and with the session `x`. -/
def Lives (boxes : List Box) (n : Nat) (k : String) (x : Session) : Prop :=
  ∃ b, boxes[n]? = some b ∧ b.key = k ∧ b.session = some x

section

variable {boxes : List Box} {n m : Nat} {b b' : Box} {k : String} {x : Session}

theorem Lives.lt (h : Lives boxes n k x) : n < boxes.length := by
  obtain ⟨b, hb, -, -⟩ := h
  exact (List.getElem?_eq_some_iff.1 hb).1

theorem lives_set (hb : boxes[n]? = some b) :
    Lives (boxes.set n b') m k x ↔ if m = n then b'.key = k ∧ b'.session = some x
      else Lives boxes m k x := by
  unfold Lives
  split
  · rename_i hm
    rw [hm, List.getElem?_set_self (List.getElem?_eq_some_iff.1 hb).1]
    simp
  · rename_i hm
    rw [List.getElem?_set_ne (Ne.symm hm)]

/-- What waits for an actor does not matter to its life. -/
theorem lives_set_queues (hb : boxes[n]? = some b) (hkey : b'.key = b.key)
    (hsession : b'.session = b.session) :
    Lives (boxes.set n b') m k x ↔ Lives boxes m k x := by
  rw [lives_set hb]
  split
  · rename_i hm
    subst hm
    simp [Lives, hb, hkey, hsession]
  · exact Iff.rfl

theorem lives_append :
    Lives (boxes ++ [b]) m k x ↔ Lives boxes m k x ∨ m = boxes.length ∧ b.key = k ∧
      b.session = some x := by
  unfold Lives
  rcases Nat.lt_trichotomy m boxes.length with hm | hm | hm
  · rw [List.getElem?_append_left hm]
    simp [Nat.ne_of_lt hm]
  · rw [hm, List.getElem?_append_right (Nat.le_refl _)]
    simp
  · rw [List.getElem?_append_right (Nat.le_of_lt hm),
      List.getElem?_eq_none (l := boxes) (Nat.le_of_lt hm), List.getElem?_eq_none (by simp; omega)]
    simp [Nat.ne_of_gt hm]

end

/-! ### What holds of each call -/

/-- Each of the calls has the property. -/
def EachCall (P : InFlight → Prop) (calls : List InFlight) : Prop :=
  ∀ (i : Nat) (c : InFlight), calls[i]? = some c → P c

namespace EachCall

variable {P : InFlight → Prop} {calls : List InFlight} {i : Nat}

theorem modify {g : InFlight → InFlight} (h : EachCall P calls)
    (hg : ∀ c, calls[i]? = some c → P (g c)) :
    EachCall P (calls.modify i g) := by
  intro j d hd
  by_cases hj : j = i
  · subst hj
    obtain ⟨c, hc, rfl⟩ := Option.map_eq_some_iff.1 ((List.getElem?_modify_eq ..).symm.trans hd)
    exact hg c hc
  · rw [getElem?_modify_ne hj] at hd
    exact h j d hd

theorem afterServing (h : EachCall P calls) (hP : ∀ c served, P c → P { c with served })
    (ids : List Nat) :
    EachCall P (servedAll calls ids) := by
  intro j d hd
  rw [getElem?_servedAll, Option.map_eq_some_iff] at hd
  obtain ⟨c, hc, rfl⟩ := hd
  exact hP c _ (h j c hc)

theorem refusedAll (h : EachCall P calls) (hP : ∀ c e, P c → P (c.to (.replied (.error e))))
    (key : String) (left : List (Nat × Command)) : EachCall P (refusedAll key calls left) := by
  induction left generalizing calls with
  | nil => exact h
  | cons e left ih => exact ih (h.modify fun c hc => hP c _ (h e.1 c hc))

end EachCall

/-! ### Who unloads -/

/-- No call has taken a conversation out of the registry and waits for its actor to stop. -/
def NobodyUnloads (calls : List InFlight) : Prop := EachCall (·.unloads = false) calls

/-- A call has taken the conversation `k` out of the registry and waits for the actor
    with the number to stop. -/
def Unloading (calls : List InFlight) (n : Nat) (k : String) : Prop :=
  ∃ (i : Nat) (c : InFlight), calls[i]? = some c ∧ c.call = .unload k ∧
    (c.stage = .sending n ∨ c.stage = .waiting n)

section

variable {calls : List InFlight} {i n : Nat} {c : InFlight} {k : String}

theorem unloads_of_stage (hcall : c.call = .unload k)
    (hstage : c.stage = .sending n ∨ c.stage = .waiting n) :
    c.unloads = true := by
  rcases hstage with hstage | hstage <;> simp [InFlight.unloads, hcall, hstage]

theorem NobodyUnloads.not_unloading (h : NobodyUnloads calls) : ¬ Unloading calls n k := by
  rintro ⟨i, c, hc, hcall, hstage⟩
  have hunloads := unloads_of_stage hcall hstage
  rw [h i c hc] at hunloads
  cases hunloads

/-- A step of a call that does not unload the conversation, or goes on with it, leaves
    the unload. -/
theorem Unloading.modify {g : InFlight → InFlight} (h : Unloading calls n k)
    (hc : calls[i]? = some c)
    (hg : c.call = .unload k → c.stage = .sending n ∨ c.stage = .waiting n →
      (g c).call = .unload k ∧ ((g c).stage = .sending n ∨ (g c).stage = .waiting n)) :
        Unloading (calls.modify i g) n k := by
  obtain ⟨j, d, hd, hcall, hstage⟩ := h
  by_cases hj : j = i
  · subst hj
    cases hc.symm.trans hd
    exact ⟨j, g c, getElem?_modify_self hc, hg hcall hstage⟩
  · exact ⟨j, d, by rw [getElem?_modify_ne hj, hd], hcall, hstage⟩

theorem Unloading.afterServing (h : Unloading calls n k) (ids : List Nat) :
    Unloading (servedAll calls ids) n k := by
  obtain ⟨j, d, hd, hcall, hstage⟩ := h
  exact ⟨j, { d with served := d.served || decide (j ∈ ids) }, by rw [getElem?_servedAll, hd]; rfl,
    hcall, hstage⟩

theorem getElem?_refusedAll_of_not_mem {key : String} {left : List (Nat × Command)}
    (hi : i ∉ left.map Prod.fst) :
    (refusedAll key calls left)[i]? = calls[i]? := by
  induction left generalizing calls with
  | nil => rfl
  | cons e left ih =>
    obtain ⟨hne, hrest⟩ : i ≠ e.1 ∧ i ∉ left.map Prod.fst := by simpa [not_or] using hi
    have hstep : refusedAll key calls (e :: left) =
        refusedAll key (calls.modify e.1 (·.to (.replied (.error (.conversationClosed key)))))
          left := rfl
    rw [hstep, ih hrest, getElem?_modify_ne hne]

/-- Whoever waits for another actor is not refused. -/
theorem Unloading.refusedAll {key : String} {left : List (Nat × Command)} {m : Nat}
    (h : Unloading calls n k) (hm : n ≠ m)
    (hleft : Queued calls (left.map Prod.fst) fun c => c.stage = .waiting m) :
    Unloading (refusedAll key calls left) n k := by
  obtain ⟨j, d, hd, hcall, hstage⟩ := h
  have hj : j ∉ left.map Prod.fst := by
    refine hleft.not_mem hd ?_
    intro hwaiting
    rcases hstage with hstage | hstage
    · simp [hwaiting] at hstage
    · exact hm (by simpa [hwaiting] using hstage.symm)
  exact ⟨j, d, by rw [getElem?_refusedAll_of_not_mem hj, hd], hcall, hstage⟩

/-- One actor at a time is waited for. -/
theorem Orderly.same_unloading {lock : Permits} {boxes : List Box} {inHand m : Nat} {j : String}
    (h : Orderly lock boxes calls inHand) (hn : Unloading calls n k) (hm : Unloading calls m j) :
    n = m := by
  obtain ⟨i, c, hc, hcall, hstage⟩ := hn
  obtain ⟨i', d, hd, hcall', hstage'⟩ := hm
  by_cases hi : i' = i
  · subst hi
    cases hc.symm.trans hd
    rcases hstage with hstage | hstage <;> rcases hstage' with hstage' | hstage' <;> simp_all
  · have hother := (h.alone hc (unloads_of_stage hcall hstage)).2 i' d hi hd
    rw [unloads_of_stage hcall' hstage'] at hother
    cases hother

end

/-- An actor that goes on keeps its machine. -/
theorem Handled.machine_eq {hooks : Hooks} {s t : Stores} {x y : Session} {command : Command}
    {a : Answer} (h : Handled hooks s x command (t, .goOn y a)) : y.machine = x.machine := by
  cases h with
  | kept => rfl
  | changed hchange => exact (changes_keep hchange).2

/-! ### Where calls go -/

/-- The call is where it needs nothing of what it has found so far. -/
def Stage.isPlain : Stage → Bool
  | .loading | .sending _ | .waiting _ | .replied _ | .answered _ => true
  | _ => false

/-- The machine that the call is about to keep or to run is closed. -/
def Stage.Closed : Stage → Prop
  | .keeping _ _ m _ => m.Closed
  | .spawning x => x.machine.Closed
  | _ => True

theorem Stage.closed_of_isPlain {s : Stage} (h : s.isPlain = true) : s.Closed := by
  cases s <;> trivial

namespace Floor

variable {f g f' : Floor} {i n : Nat} {c : InFlight} {P : InFlight → Prop}

/-- A share of the registry is got without a change to anything else. -/
theorem Granted.same (hg : f.Granted i c g) :
    g.registry = f.registry ∧ g.boxes = f.boxes ∧ g.stores = f.stores ∧
    g.definitions = f.definitions := by
  cases hg <;> exact ⟨rfl, rfl, rfl, rfl⟩

section

variable (hserved : ∀ c served, P c → P { c with served })
    (hplain : ∀ (c : InFlight) s, P c → s.isPlain = true → P (c.to s))

include hserved

theorem Granted.eachCall (h : EachCall P f.calls) (hg : f.Granted i c g) : EachCall P g.calls := by
  cases hg with
  | served => exact h.modify fun c hc => hserved c false (h i c hc)
  | taken => exact h

include hplain

theorem released_eachCall {s : Stage} (h : EachCall P f.calls) (hs : s.isPlain = true)
    (c : InFlight) (ready : List Turn) :
    EachCall P (f.released i c s ready).calls :=
  (h.modify fun d hd => hplain d s (h i d hd) hs).afterServing hserved _

theorem Entered.eachCall (h : EachCall P g.calls) (he : g.Entered i c f') :
    EachCall P f'.calls := by
  cases he with
  | @unloading k n => exact h.modify fun d hd => hplain d (.sending n) (h i d hd) rfl
  | passing hpass => exact released_eachCall hserved hplain h (by cases hpass <;> rfl) c _
  | @registering _ _ ready =>
    exact released_eachCall hserved hplain (s := .sending g.boxes.length) h rfl c ready
  | @leaving a ready => exact released_eachCall hserved hplain (s := .answered a) h rfl c ready

/-- What holds of each call still does after a step of one, if it holds where the call is led. -/
theorem Stepped.eachCall (h : EachCall P f.calls) (hc : f.calls[i]? = some c)
    (hleads : ∀ s definitions, f.Leads c s definitions → P (c.to s)) (hs : f.Stepped i c f') :
    EachCall P f'.calls := by
  cases hs with
  | resting => exact h
  | moving _ _ hl => exact h.modify fun d hd => Option.some.inj (hc.symm.trans hd) ▸ hleads _ _ hl
  | queueing => exact h
  | entering _ hgranted hentered =>
    exact hentered.eachCall hserved hplain (hgranted.eachCall hserved h)
  | @refused _ b =>
    exact h.modify fun d hd => hplain d (.replied (.error (.conversationClosed b.key)))
      (h i d hd) rfl
  | @sending n =>
    exact h.modify fun d hd => hserved (d.to (.waiting n)) false
      (hplain d (.waiting n) (h i d hd) rfl)
  | waiting => exact h
  | unlocking =>
    exact (h.modify fun d hd => hplain d (.answered (.ok (.unloaded true)))
      (h i d hd) rfl).afterServing hserved _

/-- So it does after a step of an actor. -/
theorem Worked.eachCall (h : EachCall P f.calls) (hw : f.Worked n f') : EachCall P f'.calls := by
  have hanswered (i : Nat) (places : Permits) (a : Answer) :
      EachCall P (answeredOne f.calls i places a) := by
    have hcalls := h.afterServing hserved (places.release 1).2
    exact hcalls.modify fun d hd => hplain d (.replied a) (hcalls i d hd) rfl
  cases hw with
  | resting => exact h
  | goingOn => exact hanswered _ _ _
  | ending =>
    exact (hanswered _ _ _).refusedAll (fun d e hd => hplain d (.replied (.error e)) hd rfl) _ _

end

/-- Every machine that has been compiled is closed. -/
structure Closed (f : Floor) : Prop where
  definitions : ∀ k m, f.definitions.get? k = some m → m.Closed
  calls : EachCall (·.stage.Closed) f.calls
  boxes : ∀ n k x, Lives f.boxes n k x → x.machine.Closed

/-! ### Effects -/

/-- What a turn does to the registry, the actors and what is stored. -/
inductive Effect (f f' : Floor) : Turn → Prop
  /-- Nothing; who unloads goes on with it as long as the actor lives. -/
  | unseen {t : Turn} : f'.registry = f.registry → f.stores.Same f'.stores →
      (∀ n k x, Lives f'.boxes n k x ↔ Lives f.boxes n k x) →
      (∀ n k x, Lives f.boxes n k x → Unloading f.calls n k → Unloading f'.calls n k) →
      Effect f f' t
  | taken {i n : Nat} {c : InFlight} {k : String} : f.calls[i]? = some c → c.stage = .begun →
      NobodyUnloads f.calls →
      f.registry.get? k = some n → f'.registry = f.registry.erase k → f'.stores = f.stores →
      f'.boxes = f.boxes →
      Unloading f'.calls n k → Effect f f' (.call i)
  | registered {i : Nat} {c : InFlight} {x : Session} : f.calls[i]? = some c →
      c.stage = .spawning x → NobodyUnloads f.calls →
      f.registry.get? x.conversationId = none →
      f'.registry = f.registry.insert x.conversationId f.boxes.length →
      f'.stores = f.stores →
      (∀ n k y, Lives f'.boxes n k y ↔ Lives f.boxes n k y ∨ n = f.boxes.length ∧
        x.conversationId = k ∧ x = y) →
      Effect f f' (.call i)
  | left {i : Nat} {c : InFlight} {a : Answer} : f.calls[i]? = some c → c.stage = .leaving a →
      NobodyUnloads f.calls →
      NobodyUnloads f'.calls → f'.registry = f.registry.erase c.call.conversationId →
      f'.stores = f.stores →
      f'.boxes = f.boxes → Effect f f' (.call i)
  /-- An actor handles a command, and lives on or stops. -/
  | worked {n : Nat} {k : String} {x : Session} {command : Command} {r : Reaction} :
      Lives f.boxes n k x →
      Handled f.hooks f.stores x command (f'.stores, r) → f'.registry = f.registry →
      (∀ m j y, Lives f'.boxes m j y ↔ if m = n then k = j ∧ ∃ a, r = .goOn y a
        else Lives f.boxes m j y) →
      (∀ m j y, Lives f'.boxes m j y → Unloading f.calls m j → Unloading f'.calls m j) →
      Effect f f' (.actor n)

/-- What a call does that has its share of the registry. -/
theorem Entered.effect
    (hsame : g.registry = f.registry ∧ g.boxes = f.boxes ∧ g.stores = f.stores ∧
        g.definitions = f.definitions)
    (hf : NobodyUnloads f.calls) (hg : NobodyUnloads g.calls) (hc : f.calls[i]? = some c)
    (hcg : g.calls[i]? = some { c with served := false }) (he : g.Entered i c f') :
      f.Effect f' (.call i) := by
  obtain ⟨hregistry, hboxes, hstores, -⟩ := hsame
  cases he with
  | @unloading k n hcall hstage hn =>
    refine .taken hc hstage hf (hregistry ▸ hn) (by rw [hregistry]) hstores hboxes ?_
    exact ⟨i, _, getElem?_modify_self hcg, hcall, .inl rfl⟩
  -- nobody unloads, so nothing has to be kept for who does
  | passing hpass =>
    refine .unseen hregistry (by rw [← hstores]; exact .refl _)
      (fun n k x => by rw [← hboxes]; exact Iff.rfl) ?_
    intro n k x _ hunloading
    exact absurd hunloading hf.not_unloading
  | @registering x places ready hstage hnone =>
    refine .registered hc hstage hf (hregistry ▸ hnone) (by rw [hregistry, hboxes]) hstores ?_
    intro n k y
    rw [← hboxes]
    refine lives_append.trans ?_
    simp
  -- the entry goes, whoever is behind it
  | @leaving a ready hstage =>
    refine .left hc hstage hf ?_ (by rw [hregistry]) hstores hboxes
    exact (EachCall.modify hg fun d _ => unloads_answered d a).afterServing (fun _ _ h => h) _

/-- Where a call has its share of the registry, nobody unloads, before and after. -/
theorem Granted.nobody (ho : f.InOrder) (hc : f.calls[i]? = some c)
    (hregistry : c.atRegistry = true) (hg : f.Granted i c g) :
    NobodyUnloads f.calls ∧ NobodyUnloads g.calls := by
  have hnow : NobodyUnloads g.calls := fun j d hd => hg.nobody_unloads ho hc hregistry hd
  refine ⟨?_, hnow⟩
  cases hg with
  | taken => exact hnow
  | served =>
    intro j d hd
    by_cases hj : j = i
    · subst hj
      cases hc.symm.trans hd
      exact InFlight.unloads_of_atRegistry hregistry
    · exact hnow j d (by rw [getElem?_modify_ne hj, hd])

/-- Every step of a call does one of these things. -/
theorem Stepped.effect (ho : f.InOrder) (hc : f.calls[i]? = some c) (hs : f.Stepped i c f') :
    f.Effect f' (.call i) := by
  have hsensible := ho.sensible i c hc
  cases hs with
  | resting => exact .unseen rfl (.refl _) (fun _ _ _ => Iff.rfl) fun _ _ _ _ h => h
  | moving hunloads hstores hleads =>
    refine .unseen rfl hstores (fun _ _ _ => Iff.rfl) ?_
    intro n k x _ h
    exact h.modify hc fun hcall => absurd hcall ((hleads.alone hsensible hunloads).2.2.1 k)
  | queueing => exact .unseen rfl (.refl _) (fun _ _ _ => Iff.rfl) fun _ _ _ _ h => h
  | entering hregistry hgranted hentered =>
    obtain ⟨hf, hg⟩ := hgranted.nobody ho hc hregistry
    exact hentered.effect hgranted.same hf hg hc (hgranted.orderly ho hc hregistry).2.2
  | @refused n b hstage hb hnone =>
    refine .unseen rfl (.refl _) (fun _ _ _ => Iff.rfl) ?_
    rintro m k x ⟨b', hb', -, hlive⟩ h
    refine h.modify hc ?_
    -- the actor that is unloaded lives, and this one has stopped
    rintro - (hm | hm)
    · obtain rfl : n = m := by simpa [hstage] using hm
      cases hb.symm.trans hb'
      rw [hnone] at hlive
      cases hlive
    · simp [hstage] at hm
  -- a command more in a mailbox changes no session
  | @sending n b k command places ready hstage hb =>
    refine .unseen rfl (.refl _) (fun _ _ _ => lives_set_queues hb rfl rfl) ?_
    intro m k x _ h
    refine h.modify hc ?_
    rintro hcall (hm | hm)
    · obtain rfl : n = m := by simpa [hstage] using hm
      exact ⟨hcall, .inr rfl⟩
    · simp [hstage] at hm
  | @waiting n b lacked hstage hb =>
    exact .unseen rfl (.refl _) (fun _ _ _ => lives_set_queues hb rfl rfl) fun _ _ _ _ h => h
  | @unlocking k a ready hcall hstage =>
    refine .unseen rfl (.refl _) (fun _ _ _ => Iff.rfl) ?_
    intro m j x _ h
    refine (h.modify hc ?_).afterServing _
    rintro - (hm | hm) <;> simp [hstage] at hm

/-- Every step of an actor does one of these things. -/
theorem Worked.effect (ho : f.InOrder) (h : f.Closed) (hw : f.Worked n f') :
    f.Effect f' (.actor n) := by
  cases hw with
  | resting => exact .unseen rfl (.refl _) (fun _ _ _ => Iff.rfl) fun _ _ _ _ h => h
  | @goingOn key x y i command left places stores a ready hb hhandle =>
    have hlives : Lives f.boxes n key x := ⟨_, hb, rfl, rfl⟩
    have hhandled : Handled f.hooks f.stores x command (stores, .goOn y a) :=
      hhandle ▸ Actor.handled (h.boxes n key x hlives) command
    refine .worked hlives hhandled rfl (fun m j z => (lives_set hb).trans (by simp)) ?_
    intro m j z _ hunloading
    obtain ⟨c, hc, -⟩ := (ho.boxes n _ hb rfl).mailbox.placed i List.mem_cons_self
    have hserved := getElem?_servedAll (places.release 1).2 f.calls i
    rw [hc, Option.map_some] at hserved
    refine (hunloading.afterServing _).modify hserved ?_
    -- the command of an unload makes the actor stop
    intro hcall _
    obtain ⟨k, htarget⟩ := (ho.boxes n _ hb rfl).commands _ List.mem_cons_self c hc
    rw [show c.call = .unload j from hcall] at htarget
    cases htarget
    cases hhandle
  -- who unloads another conversation does not wait here
  | @ending key x i command left places stores r a ready hb hhandle hr =>
    have hlives : Lives f.boxes n key x := ⟨_, hb, rfl, rfl⟩
    have hhandled : Handled f.hooks f.stores x command (stores, r) :=
      hhandle ▸ Actor.handled (h.boxes n key x hlives) command
    refine .worked hlives hhandled rfl (fun m j z => (lives_set hb).trans (by simp [hr])) ?_
    intro m j z hz hunloading
    rw [lives_set hb] at hz
    split at hz
    · cases hz.2
    · rename_i hm
      refine Unloading.refusedAll ?_ hm (left_waiting ho hb)
      obtain ⟨c, hc, hstage⟩ := waits_servedAll ho hb i List.mem_cons_self
      refine (hunloading.afterServing _).modify hc ?_
      rintro - (hother | hother)
      · simp [hstage] at hother
      · exact absurd (by simpa [hstage] using hother.symm) hm

/-! ### Machines stay closed -/

theorem withMachine_closed {m : Machine} (h : m.Closed) (p : Purpose) :
    (f.withMachine m p).Closed := by
  unfold withMachine
  split
  · trivial
  · exact h
  · split
    · rename_i x hx
      obtain ⟨-, -, rfl⟩ := Session.resume_eq_ok.1 hx
      exact h
    · trivial

theorem afterLoad_closed (call : Call) (r : Except RuntimeError (Option Snapshot)) :
    (afterLoad call r).Closed := by
  unfold afterLoad
  split
  · trivial
  · trivial
  · split <;> trivial

theorem Leads.closed {s : Stage} {definitions : Dict Machine} (h : f.Closed)
    (hc : f.calls[i]? = some c) (hleads : f.Leads c s definitions) :
    s.Closed ∧ ∀ k m, definitions.get? k = some m → m.Closed := by
  have hstage : c.stage.Closed := h.calls i c hc
  cases hleads with
  | shown | missed | refused | closing | received => exact ⟨trivial, h.definitions⟩
  | loaded => exact ⟨afterLoad_closed .., h.definitions⟩
  | cached _ hm | late _ hm => exact ⟨withMachine_closed (h.definitions _ _ hm) _, h.definitions⟩
  | fetched _ hv => exact ⟨(compile_eq_ok.1 hv).closed, h.definitions⟩
  | @kept flowId versionId p m hs =>
    rw [hs] at hstage
    refine ⟨withMachine_closed hstage p, ?_⟩
    intro k m' hm'
    rw [Dict.get?_insert] at hm'
    split at hm'
    · cases hm'
      exact hstage
    · exact h.definitions k m' hm'

theorem Entered.definitions_eq (he : g.Entered i c f') : f'.definitions = g.definitions := by
  cases he <;> rfl

/-- The actors that live after a turn run closed machines. -/
theorem Effect.closed {t : Turn} (h : f.Closed) (he : f.Effect f' t) :
    ∀ n k x, Lives f'.boxes n k x → x.machine.Closed := by
  cases he with
  | unseen _ _ hlives => exact fun n k x hx => h.boxes n k x ((hlives n k x).1 hx)
  | taken _ _ _ _ _ _ hboxes => exact hboxes ▸ h.boxes
  | left _ _ _ _ _ _ hboxes => exact hboxes ▸ h.boxes
  | @registered i c x hc hstage _ _ _ _ hlives =>
    intro n k y hy
    rcases (hlives n k y).1 hy with hy | ⟨-, -, rfl⟩
    · exact h.boxes n k y hy
    · have hx : c.stage.Closed := h.calls i c hc
      rwa [hstage] at hx
  | @worked n k x command r hx hhandled _ hlives =>
    intro m j y hy
    have hy := (hlives m j y).1 hy
    split at hy
    · obtain ⟨-, a, rfl⟩ := hy
      rw [hhandled.machine_eq]
      exact h.boxes n k x hx
    · exact h.boxes m j y hy

theorem Stepped.closed (h : f.Closed) (ho : f.InOrder) (hc : f.calls[i]? = some c)
    (hs : f.Stepped i c f') : f'.Closed where
  definitions := by
    cases hs with
    | moving _ _ hleads => exact (hleads.closed h hc).2
    | entering _ hgranted hentered =>
      rw [hentered.definitions_eq, hgranted.same.2.2.2]
      exact h.definitions
    | _ => exact h.definitions
  calls := hs.eachCall (fun _ _ h => h) (fun _ _ _ => Stage.closed_of_isPlain) h.calls hc
    fun _ _ hleads => (hleads.closed h hc).1
  boxes := (hs.effect ho hc).closed h

theorem Worked.closed (h : f.Closed) (ho : f.InOrder) (hw : f.Worked n f') : f'.Closed where
  definitions := by cases hw <;> exact h.definitions
  calls := hw.eachCall (fun _ _ h => h) (fun _ _ _ => Stage.closed_of_isPlain) h.calls
  boxes := (hw.effect ho h).closed h

end Floor
end Dialogue.Live
