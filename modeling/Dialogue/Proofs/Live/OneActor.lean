import Mathlib.Data.List.Induction
import Dialogue.Proofs.Live.Durability
import Dialogue.Proofs.Live.Effects

/-! # One actor for a conversation

    Calls may meet in any order. At most one actor lives for a conversation, the registry leads to
    it unless it is being unloaded, and its session is the one stored (`Floor.OneEach`): so it is at
    every moment exactly as long as no call slips in one of two ways
    (`Manager.one_each_iff_no_slip`). A snapshot is read before the registry is taken, so the
    session may be out of date when its actor is registered (`Floor.RegistersStale`). A conversation
    that has been closed is taken out of the registry after the answer, so another actor may be
    registered for it by then (`Floor.DropsLive`). -/

namespace Dialogue.Live

open Time Conversation StateMachine

/-- The session is the one stored for the conversation. Where nothing is stored, the conversation
    has just been started. -/
def Current (s : Stores) (k : String) (x : Session) : Prop :=
  x.conversationId = k ∧ match s.stored k with
    | some t => t.Describes x
    | none => ∃ (n : NewContact) (now : Instant) (m : Machine), x = n.start now m

theorem Current.restored {s t : Stores} {k : String} {x : Session} (h : Current s k x)
    (ht : t.stored k = s.stored k) :
    Current t k x := by
  unfold Current
  rw [ht]
  exact h

/-- What is stored of other conversations is not touched. -/
theorem Handled.stored_of_ne {hooks : Hooks} {s t : Stores} {x : Session} {command : Command}
    {r : Reaction} {k : String} (h : Handled hooks s x command (t, r)) (hk : k ≠ x.conversationId) :
    t.stored k = s.stored k := by
  cases h with
  | kept hsame => exact hsame.stored k
  | changed hchange hstored => rw [hstored.stored, if_neg ((changes_keep hchange).1 ▸ hk)]
  | closed _ _ hothers => exact (hothers k).resolve_right fun h => hk h.1
  | shutDown => rfl
  | brokeDown hsame => exact hsame.stored k

/-- The session of an actor that goes on is the one stored, if it was. -/
theorem Handled.current {hooks : Hooks} {s t : Stores} {x y : Session} {command : Command}
    {a : Answer} {k : String} (h : Handled hooks s x command (t, .goOn y a)) (hx : Current s k x) :
    Current t k y := by
  cases h with
  | kept hsame => exact hx.restored (hsame.stored k)
  | changed hchange hstored =>
    have hid : y.conversationId = k := (changes_keep hchange).1.trans hx.1
    have hnow : t.stored k = some y.snapshot := by rw [hstored.stored, if_pos hid.symm]
    refine ⟨hid, ?_⟩
    rw [hnow]
    exact y.describes_snapshot

namespace Floor

/-- The registry leads to each actor that lives, unless an unload has taken it out and
    waits for it to stop. -/
def Listed (f : Floor) : Prop :=
  ∀ n k x, Lives f.boxes n k x → f.registry.get? k = some n ∨ f.registry.get? k = none ∧
    Unloading f.calls n k

/-- The session of each actor that lives is the one stored. -/
def UpToDate (f : Floor) : Prop := ∀ n k x, Lives f.boxes n k x → Current f.stores k x

/-- Each conversation has one actor at most, which is listed and up to date. -/
structure OneEach (f : Floor) : Prop where
  single : ∀ m n k x y, Lives f.boxes m k x → Lives f.boxes n k y → m = n
  listed : f.Listed
  upToDate : f.UpToDate

/-- A call registers an actor whose session is not the one stored. -/
def RegistersStale (f : Floor) (t : Turn) (f' : Floor) : Prop :=
  ∃ i c x, t = .call i ∧ f.calls[i]? = some c ∧ c.stage = .spawning x ∧
    Lives f'.boxes f.boxes.length x.conversationId x ∧ ¬ Current f.stores x.conversationId x

/-- A call that has closed its conversation takes it out of the registry while an actor
    lives there. -/
def DropsLive (f : Floor) (t : Turn) (f' : Floor) : Prop :=
  ∃ i c a n x, t = .call i ∧ f.calls[i]? = some c ∧ c.stage = .leaving a ∧
    Lives f.boxes n c.call.conversationId x ∧
    f.registry.get? c.call.conversationId = some n ∧ f'.registry.get? c.call.conversationId = none

variable {f f' : Floor} {t : Turn} {i n : Nat} {c : InFlight}

/-! ### One turn -/

/-- Actors that are listed are not two of one conversation, since one call at a time unloads. -/
theorem Listed.single (h : f.Listed) (ho : f.InOrder) {m n : Nat} {k : String} {x y : Session}
    (hx : Lives f.boxes m k x) (hy : Lives f.boxes n k y) : m = n := by
  rcases h m k x hx with hm | ⟨hm, hmOut⟩ <;> rcases h n k y hy with hn | ⟨hn, hnOut⟩
  · exact Option.some.inj (hm.symm.trans hn)
  · cases hm.symm.trans hn
  · cases hm.symm.trans hn
  · exact ho.same_unloading hmOut hnOut

/-- While nobody unloads, an actor lives only where the registry leads to it. -/
theorem Listed.registered (h : f.Listed) (hnobody : NobodyUnloads f.calls) {n : Nat} {k : String}
    {x : Session} (hx : Lives f.boxes n k x) : f.registry.get? k = some n :=
  (h n k x hx).resolve_right fun hout => hnobody.not_unloading hout.2

theorem not_dropsLive (hc : f.calls[i]? = some c) (hstage : ∀ a, c.stage ≠ .leaving a) :
    ¬ f.DropsLive (.call i) f' := by
  rintro ⟨_, _, a, _, _, ⟨⟩, hc', ha, -⟩
  cases hc.symm.trans hc'
  exact hstage a ha

theorem not_registersStale
    (h : ∀ k x, Lives f'.boxes f.boxes.length k x → Lives f.boxes f.boxes.length k x) :
    ¬ f.RegistersStale t f' := by
  rintro ⟨_, _, x, -, -, -, hx, -⟩
  exact Nat.lt_irrefl _ (h _ x hx).lt

/-- The actors stay listed unless one is dropped. -/
theorem Effect.listed_iff (h : f.Listed) (he : f.Effect f' t) : f'.Listed ↔ ¬ f.DropsLive t f' := by
  cases he with
  | unseen hregistry hstores hlives hunloading =>
    refine iff_of_true ?_ ?_
    · intro n k x hx
      rw [hlives] at hx
      rw [hregistry]
      exact (h n k x hx).imp_right fun hout => ⟨hout.1, hunloading n k x hx hout.2⟩
    · rintro ⟨_, _, _, _, _, -, -, -, -, hthere, hgone⟩
      rw [hregistry, hthere] at hgone
      cases hgone
  -- the actor that is taken out is the one to be unloaded
  | @taken i n c k hc hstage hnobody hthere hregistry hstores hboxes hunloading =>
    refine iff_of_true ?_ (not_dropsLive hc (by simp [hstage]))
    intro m j x hx
    rw [hboxes] at hx
    have hin := h.registered hnobody hx
    rw [hregistry, Dict.get?_erase]
    split
    · rename_i hj
      subst hj
      cases hthere.symm.trans hin
      exact .inr ⟨rfl, hunloading⟩
    · exact .inl hin
  -- the conversation had no entry, so no other actor of it lived
  | @registered i c x hc hstage hnobody hnone hregistry hstores hlives =>
    refine iff_of_true ?_ (not_dropsLive hc (by simp [hstage]))
    intro m k y hy
    rw [hregistry, Dict.get?_insert]
    rcases (hlives m k y).1 hy with hy | ⟨rfl, rfl, -⟩
    · have hin := h.registered hnobody hy
      have hk : k ≠ x.conversationId := by
        rintro rfl
        cases hnone.symm.trans hin
      exact .inl (by rw [if_neg hk, hin])
    · exact .inl (if_pos rfl)
  -- the one turn that can drop an actor: it clears the entry, whoever is listed there
  | @left i c a hc hstage hbefore hafter hregistry hstores hboxes =>
    have hgone : f'.registry.get? c.call.conversationId = none := by
      rw [hregistry, Dict.get?_erase, if_pos rfl]
    constructor
    · rintro h' ⟨_, _, _, n, x, ⟨⟩, hc', -, hx, -, -⟩
      cases hc.symm.trans hc'
      cases hgone.symm.trans (h'.registered hafter (hboxes ▸ hx))
    · intro hkept n k x hx
      rw [hboxes] at hx
      have hin := h.registered hbefore hx
      have hk : k ≠ c.call.conversationId := by
        rintro rfl
        exact hkept ⟨i, c, a, n, x, rfl, hc, hstage, hx, hin, hgone⟩
      exact .inl (by rw [hregistry, Dict.get?_erase, if_neg hk, hin])
  -- the registry is as it was, and no actor has begun to live
  | @worked n k x command r hx hhandled hregistry hlives hunloading =>
    refine iff_of_true ?_ (by rintro ⟨_, _, _, _, _, ⟨⟩, -⟩)
    intro m j y hy
    have hbefore : f.registry.get? j = some m ∨ f.registry.get? j = none ∧
        Unloading f.calls m j := by
      have hy := (hlives m j y).1 hy
      split at hy
      · rename_i hm
        obtain ⟨rfl, -⟩ := hy
        exact hm ▸ h n k x hx
      · exact h m j y hy
    rw [hregistry]
    exact hbefore.imp_right fun hout => ⟨hout.1, hunloading m j y hy hout.2⟩

/-- They stay up to date unless a stale one is registered. -/
theorem Effect.upToDate_iff (h : f.OneEach) (he : f.Effect f' t) :
    f'.UpToDate ↔ ¬ f.RegistersStale t f' := by
  cases he with
  | unseen hregistry hstores hlives hunloading =>
    refine iff_of_true ?_ (not_registersStale fun k x => (hlives _ k x).1)
    intro n k x hx
    exact (h.upToDate n k x ((hlives n k x).1 hx)).restored (hstores.stored k)
  | taken hc hstage hnobody hthere hregistry hstores hboxes hunloading =>
    refine iff_of_true ?_ (not_registersStale fun _ _ hx => hboxes ▸ hx)
    rw [UpToDate, hboxes, hstores]
    exact h.upToDate
  -- the one turn that can register a stale session
  | @registered i c x hc hstage hnobody hnone hregistry hstores hlives =>
    have hnew : Lives f'.boxes f.boxes.length x.conversationId x :=
      (hlives _ _ _).2 (.inr ⟨rfl, rfl, rfl⟩)
    constructor
    · rintro h' ⟨_, _, y, ⟨⟩, hc', hy, -, hstale⟩
      cases hc.symm.trans hc'
      obtain rfl : x = y := by simpa [hstage] using hy
      exact hstale (hstores ▸ h' _ _ _ hnew)
    · intro hfresh m k y hy
      rw [hstores]
      rcases (hlives m k y).1 hy with hy | ⟨-, rfl, rfl⟩
      · exact h.upToDate m k y hy
      · by_contra hstale
        exact hfresh ⟨i, c, x, rfl, hc, hstage, hnew, hstale⟩
  | left hc hstage hbefore hafter hregistry hstores hboxes =>
    refine iff_of_true ?_ (not_registersStale fun _ _ hx => hboxes ▸ hx)
    rw [UpToDate, hboxes, hstores]
    exact h.upToDate
  -- the only turn that changes what is stored, and only of its own conversation
  | @worked n k x command r hx hhandled hregistry hlives hunloading =>
    refine iff_of_true ?_ (by rintro ⟨_, _, _, ⟨⟩, -⟩)
    have hcurrent := h.upToDate n k x hx
    intro m j y hy
    have hy := (hlives m j y).1 hy
    split at hy
    · obtain ⟨rfl, a, rfl⟩ := hy
      exact hhandled.current hcurrent
    · rename_i hm
      -- the actor of another conversation
      have hj : j ≠ x.conversationId := by
        rintro rfl
        exact hm (h.single m n _ y x hy (hcurrent.1 ▸ hx))
      exact (h.upToDate m j y hy).restored (hhandled.stored_of_ne hj)

/-! ### Runs -/

/-- What holds of every run of calls that meet. -/
structure Sound (f : Floor) : Prop where
  inOrder : f.InOrder
  closed : f.Closed

/-- The floor after a turn. -/
def take (f : Floor) : Turn → Floor
  | .call i => f.stepCall i
  | .actor n => f.stepActor n

theorem take_effect (h : f.Sound) (t : Turn) : f.Effect (f.take t) t := by
  cases t with
  | call i =>
    cases hc : f.calls[i]? with
    | some c => exact (stepCall_stepped hc).effect h.inOrder hc
    | none =>
      rw [take, stepCall_of_none hc]
      exact .unseen rfl (.refl _) (fun _ _ _ => Iff.rfl) fun _ _ _ _ hunloading => hunloading
  | actor n => exact (stepActor_worked n).effect h.inOrder h.closed

theorem Sound.take (h : f.Sound) (t : Turn) : (f.take t).Sound := by
  cases t with
  | call i =>
    refine ⟨h.inOrder.stepCall i, ?_⟩
    cases hc : f.calls[i]? with
    | some c => exact (stepCall_stepped hc).closed h.closed h.inOrder hc
    | none =>
      rw [Floor.take, stepCall_of_none hc]
      exact h.closed
  | actor n => exact ⟨h.inOrder.stepActor n, (stepActor_worked n).closed h.closed h.inOrder⟩

/-- What holds of each call still does after a turn, if it holds wherever a call is led. -/
theorem take_eachCall {P : InFlight → Prop} (h : EachCall P f.calls)
    (hserved : ∀ c served, P c → P { c with served })
    (hplain : ∀ (c : InFlight) s, P c → s.isPlain = true → P (c.to s))
    (hleads : ∀ c s definitions, P c → f.Leads c s definitions → P (c.to s)) (t : Turn) :
    EachCall P (f.take t).calls := by
  cases t with
  | call i =>
    cases hc : f.calls[i]? with
    | some c =>
      exact (stepCall_stepped hc).eachCall hserved hplain h hc fun s d => hleads c s d (h i c hc)
    | none =>
      rw [take, stepCall_of_none hc]
      exact h
  | actor n => exact (stepActor_worked n).eachCall hserved hplain h

/-- What happens next: somebody has a turn, or time goes by. -/
inductive Moment where
  | turn (t : Turn)
  | tick (now : Instant)

/-- The floor after a moment. -/
def pass (f : Floor) : Moment → Floor
  | .turn t => f.take t
  | .tick now => { f with stores := { f.stores with clock := now } }

/-- The floor after a run. -/
def after (f : Floor) (ms : List Moment) : Floor := ms.foldl pass f

theorem after_concat (f : Floor) (ms : List Moment) (m : Moment) :
    f.after (ms ++ [m]) = (f.after ms).pass m := by
  simp [after]

/-- A call slips: it registers an actor that is not up to date, or drops one that lives. -/
def Slips (f : Floor) : Moment → Prop
  | .turn t => f.RegistersStale t (f.take t) ∨ f.DropsLive t (f.take t)
  | .tick _ => False

theorem Sound.pass (h : f.Sound) (m : Moment) : (f.pass m).Sound := by
  cases m with
  | turn t => exact h.take t
  | tick now => exact ⟨h.inOrder, h.closed.definitions, h.closed.calls, h.closed.boxes⟩

/-- What every moment keeps holds after a run. -/
theorem Sound.run {P : Floor → Prop} (hs : f.Sound) (h : P f)
    (hpass : ∀ (g : Floor) (m : Moment), g.Sound → P g → P (g.pass m)) (ms : List Moment) :
    (f.after ms).Sound ∧ P (f.after ms) := by
  induction ms generalizing f with
  | nil => exact ⟨hs, h⟩
  | cons m ms ih => exact ih (hs.pass m) (hpass f m hs h)

theorem Sound.after (h : f.Sound) (ms : List Moment) : (f.after ms).Sound :=
  (h.run (P := fun _ => True) trivial (fun _ _ _ _ => trivial) ms).1

/-- Each conversation still has one actor at most after a moment, if and only if that is no slip. -/
theorem OneEach.pass_iff (hs : f.Sound) (h : f.OneEach) (m : Moment) :
    (f.pass m).OneEach ↔ ¬ f.Slips m := by
  cases m with
  | turn t =>
    have heffect := take_effect hs t
    unfold Slips
    rw [not_or, ← heffect.upToDate_iff h, ← heffect.listed_iff h.listed]
    constructor
    · exact fun h' => ⟨h'.upToDate, h'.listed⟩
    · rintro ⟨hupToDate, hlisted⟩
      exact ⟨fun _ _ _ _ _ hx hy => hlisted.single (hs.take t).inOrder hx hy, hlisted, hupToDate⟩
  | tick now => exact iff_of_true ⟨h.single, h.listed, h.upToDate⟩ id

/-- So it is at every moment of a run, if and only if no moment is a slip. -/
theorem OneEach.after_iff (hs : f.Sound) (h : f.OneEach) (ms : List Moment) :
    (∀ p, p <+: ms → (f.after p).OneEach) ↔ ∀ p m, p ++ [m] <+: ms → ¬ (f.after p).Slips m := by
  constructor
  · intro hall p m hp
    have hbefore := hall p ((List.prefix_append p [m]).trans hp)
    have hnext := hall (p ++ [m]) hp
    rw [after_concat] at hnext
    exact (hbefore.pass_iff (hs.after p) m).1 hnext
  · intro hall p
    induction p using List.reverseRecOn with
    | nil => exact fun _ => h
    | append_singleton p m ih =>
      intro hp
      rw [after_concat]
      exact ((ih ((List.prefix_append p [m]).trans hp)).pass_iff (hs.after p) m).2 (hall p m hp)

end Floor

namespace Manager

open Floor

variable (stores : Stores) (hooks : Hooks) (size : Nat) (calls : List Call)

/-- Nobody has been served when the calls are made. -/
theorem permits_begun (call : Call) : ({ call } : InFlight).permits = 0 := by
  have hunloads : ({ call } : InFlight).unloads = false := by
    unfold InFlight.unloads
    split <;> simp_all
  simp [InFlight.permits, hunloads]

theorem eachCall_floor {P : InFlight → Prop} (h : ∀ call ∈ calls, P { call }) :
    EachCall P ((fresh stores hooks size).floor calls).calls := by
  intro i c hc
  obtain ⟨call, hcall, rfl⟩ := List.mem_map.1 (List.mem_of_getElem? hc)
  exact h call hcall

theorem sound_floor : ((fresh stores hooks size).floor calls).Sound := by
  refine ⟨⟨?_, .nil _ _, by rintro n b ⟨⟩, ?_⟩, by rintro k m ⟨⟩, ?_, by rintro n k x ⟨b, ⟨⟩, -⟩⟩
  · have hheld : held (calls.map fun call => ({ call } : InFlight)) = 0 := by
      induction calls with
      | nil => rfl
      | cons call calls ih => rw [List.map_cons, held, permits_begun, ih]
    simp [account, floor, kept, hheld]
  · exact eachCall_floor stores hooks size calls fun _ _ => ⟨by rintro ⟨⟩, fun _ _ => rfl⟩
  · exact eachCall_floor stores hooks size calls fun _ _ => trivial

theorem oneEach_floor : ((fresh stores hooks size).floor calls).OneEach where
  single := by rintro m n k x y ⟨b, ⟨⟩, -⟩
  listed := by rintro n k x ⟨b, ⟨⟩, -⟩
  upToDate := by rintro n k x ⟨b, ⟨⟩, -⟩

/-- However calls meet, at every moment each conversation has one actor at most, which the registry
    leads to unless it is being unloaded and whose session is the one stored, if and only if no call
    registers a session that is out of date, or drops an actor that has been registered since the
    conversation was closed. -/
theorem one_each_iff_no_slip (ms : List Moment) :
    (∀ p, p <+: ms → (((fresh stores hooks size).floor calls).after p).OneEach) ↔
      ∀ p m, p ++ [m] <+: ms → ¬ (((fresh stores hooks size).floor calls).after p).Slips m :=
  (oneEach_floor stores hooks size calls).after_iff (sound_floor stores hooks size calls) ms

/-- A call has `k` turns in a row. -/
def turnsOf (i k : Nat) : List Moment := List.replicate k (.turn (.call i))

/-- A visit is begun a second time while the first asks for booking and is then unloaded. -/
def secondStart : List Call :=
  [.begin { visitor with contactId := "k2" }, .begin visitor, .request "c1" "book", .unload "c1"]

/-- The second has read that nothing is stored before the first begins, and registers its
    actor after the unload. -/
def lateStart : List Moment :=
  turnsOf 0 2 ++ turnsOf 1 7 ++ [.turn (.actor 0)] ++ turnsOf 1 1 ++ turnsOf 2 2 ++
    [.turn (.actor 0)] ++ turnsOf 2 1 ++
    turnsOf 3 2 ++ [.turn (.actor 0)] ++ turnsOf 3 1 ++ turnsOf 0 2

/-- A visit is closed and unloaded, and begun anew by two others. -/
def closedAndUnloaded : List Call :=
  [.begin visitor, .endContact "c1" { contactId := "k1" }, .unload "c1",
    .begin { visitor with contactId := "k2" },
   .begin { visitor with contactId := "k3" }]

/-- The call that has closed it leaves the registry after the first of them has
    registered its actor. -/
def lateLeave : List Moment :=
  turnsOf 0 7 ++ [.turn (.actor 0)] ++ turnsOf 0 1 ++ turnsOf 1 2 ++ [.turn (.actor 0)] ++
    turnsOf 1 1 ++ turnsOf 2 3 ++
    turnsOf 3 4 ++ turnsOf 1 1 ++ turnsOf 4 4

/-- Booking has been accepted and is stored, and the registered actor is back at the welcome; and
    two actors live for one conversation. -/
theorem undone_and_doubled :
    let f := ((fresh (stocked [booking [] ""]) (fun _ => none) 1).floor secondStart).after lateStart
    let g := ((fresh (stocked [booking [] ""]) (fun _ => none) 1).floor closedAndUnloaded).after
      lateLeave
    (∃ task x s, f.calls[2]?.map (·.stage) = some (.answered (.ok (.transition (.accepted task)))) ∧
      task.name = "book" ∧ f.registry.get? "c1" = some 1 ∧ Lives f.boxes 1 "c1" x ∧
      x.state.context.currentTask = "welcome" ∧
      f.stores.stored "c1" = some s ∧ s.context.currentTask = "book") ∧
    ∃ x y, Lives g.boxes 1 "c1" x ∧ Lives g.boxes 2 "c1" y := by
  intro f g
  refine ⟨?_, ?_⟩
  · exact ⟨_, _, _, rfl, rfl, rfl, ⟨_, rfl, rfl, rfl⟩, rfl, rfl, rfl⟩
  · exact ⟨_, _, ⟨_, rfl, rfl, rfl⟩, ⟨_, rfl, rfl, rfl⟩⟩

end Manager
end Dialogue.Live
