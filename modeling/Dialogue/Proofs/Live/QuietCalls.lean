import Dialogue.Proofs.Live.OneActor

/-! # Calls that leave the registry alone

    Only the end of a contact takes a conversation out of the registry without regard to who lives
    there, so where no call is one, each conversation has one actor at most whatever is unloaded
    meanwhile (`Manager.single_without_ends`). Where nobody unloads either, a conversation that has
    been registered stays so; what a call has read of one that is not remains what is stored of it,
    and every session is the one stored (`Manager.one_each_of_quiet`). -/

namespace Dialogue.Live

open Time Conversation StateMachine

/-- The call is no end of a contact. -/
def Call.goesOn : Call → Bool
  | .endContact .. => false
  | _ => true

/-- The call neither ends a contact nor unloads. -/
def Call.isQuiet : Call → Bool
  | .endContact .. | .unload _ => false
  | _ => true

/-- The call has not closed its conversation, and will not. -/
def InFlight.Stays (c : InFlight) : Prop := c.call.goesOn = true ∧ ∀ a, c.stage ≠ .leaving a

/-- Snapshots lie under their own ids. -/
def Stores.Filed (s : Stores) : Prop := ∀ k t, s.stored k = some t → t.context.conversationId = k

theorem Handled.filed {hooks : Hooks} {s s' : Stores} {x : Session} {command : Command}
    {r : Reaction} (h : Handled hooks s x command (s', r)) (hs : s.Filed) : s'.Filed := by
  intro k u hu
  cases h with
  | kept hsame => exact hs k u ((hsame.stored k).symm.trans hu)
  | @changed _ _ y _ hchange hstored =>
    rw [hstored.stored] at hu
    split at hu
    · rename_i hk
      cases hu
      exact hk.symm
    · exact hs k u hu
  | closed _ _ hothers =>
    rcases hothers k with hk | ⟨-, hk⟩
    · exact hs k u (hk.symm.trans hu)
    · cases hk.symm.trans hu
  | shutDown => exact hs k u hu
  | brokeDown hsame => exact hs k u ((hsame.stored k).symm.trans hu)

namespace Floor

variable {f f' : Floor} {t : Turn} {i : Nat} {c : InFlight}

/-! ### Without ends of contacts -/

theorem withMachine_ne_leaving (m : Machine) (p : Purpose) (a : Answer) :
    f.withMachine m p ≠ .leaving a := by
  unfold withMachine
  split
  · simp
  · simp
  · split <;> simp

theorem afterLoad_ne_leaving (call : Call) (r : Except RuntimeError (Option Snapshot))
    (a : Answer) :
    afterLoad call r ≠ .leaving a := by
  unfold afterLoad
  split
  · simp
  · simp
  · split <;> simp

theorem Leads.stays {s : Stage} {definitions : Dict Machine} (h : f.Leads c s definitions)
    (hc : c.Stays) : (c.to s).Stays := by
  refine ⟨hc.1, ?_⟩
  intro a hs
  change s = .leaving a at hs
  cases h with
  | loaded => exact afterLoad_ne_leaving _ _ a hs
  | cached | late | kept => exact withMachine_ne_leaving _ _ a hs
  | closing hcall =>
    have hgoes := hc.1
    simp [hcall, Call.goesOn] at hgoes
  | _ => cases hs

theorem stays_take (h : EachCall InFlight.Stays f.calls) (t : Turn) :
    EachCall InFlight.Stays (f.take t).calls := by
  refine take_eachCall h (fun _ _ hc => hc) ?_ (fun _ _ _ hc hleads => hleads.stays hc) t
  intro c s hc hs
  refine ⟨hc.1, ?_⟩
  rintro a rfl
  cases hs

theorem not_dropsLive_of_stays (h : EachCall InFlight.Stays f.calls) : ¬ f.DropsLive t f' := by
  rintro ⟨i, c, a, _, _, -, hc, hstage, -⟩
  exact (h i c hc).2 a hstage

/-- Without ends of contacts every actor stays listed. -/
theorem Listed.after (hs : f.Sound) (h : f.Listed) (hstays : EachCall InFlight.Stays f.calls)
    (ms : List Moment) :
    (f.after ms).Listed := by
  refine (hs.run (P := fun g => g.Listed ∧ EachCall InFlight.Stays g.calls) ⟨h, hstays⟩ ?_ ms).2.1
  rintro g (t | now) hg ⟨hlisted, hcalls⟩
  · exact ⟨((take_effect hg t).listed_iff hlisted).2 (not_dropsLive_of_stays hcalls),
      stays_take hcalls t⟩
  · exact ⟨hlisted, hcalls⟩

/-! ### Without unloads too -/

/-- What has been found of a conversation without an actor is what is stored of it. -/
def FoundFor (f : Floor) : Purpose → Prop
  | .start n => f.registry.get? n.conversationId = none → f.stores.stored n.conversationId = none
  | .resume s =>
    f.registry.get? s.context.conversationId = none →
      f.stores.stored s.context.conversationId = some s
  | .display => True

/-- What a call has read of the stores is still so. -/
def Found (f : Floor) : Stage → Prop
  | .defining _ _ p | .fetching _ _ p | .keeping _ _ _ p => f.FoundFor p
  | .spawning x => f.registry.get? x.conversationId = none → Current f.stores x.conversationId x
  | _ => True

/-- No call ends a contact or unloads, snapshots lie under their own ids, and what calls have found
    of conversations without actors is what is stored of them. -/
structure Quiet (f : Floor) : Prop where
  stays : EachCall InFlight.Stays f.calls
  quiet : EachCall (·.call.isQuiet = true) f.calls
  filed : f.stores.Filed
  found : EachCall (f.Found ·.stage) f.calls

/-- So it stays as long as the conversations without actors had none, and the same is
    stored of them. -/
theorem Found.vacant {s : Stage} (h : f.Found s) (hvacant : ∀ k, f'.registry.get? k = none →
    f.registry.get? k = none ∧ f'.stores.stored k = f.stores.stored k) : f'.Found s := by
  have hpurpose {p : Purpose} (hp : f.FoundFor p) : f'.FoundFor p := by
    cases p with
    | start n => exact fun hnone => (hvacant _ hnone).2.trans (hp (hvacant _ hnone).1)
    | resume s => exact fun hnone => (hvacant _ hnone).2.trans (hp (hvacant _ hnone).1)
    | display => trivial
  cases s with
  | defining | fetching | keeping => exact hpurpose h
  | spawning x => exact fun hnone => (h (hvacant _ hnone).1).restored (hvacant _ hnone).2
  | _ => trivial

theorem found_of_isPlain {s : Stage} (h : s.isPlain = true) : f.Found s := by
  cases s <;> trivial

theorem found_withMachine {m : Machine} {p : Purpose} (h : f.FoundFor p) :
    f.Found (f.withMachine m p) := by
  unfold withMachine
  split
  · trivial
  · rename_i n
    intro hnone
    refine ⟨rfl, ?_⟩
    have hstored : f.stores.stored (n.start f.stores.clock m).conversationId = none := h hnone
    rw [hstored]
    exact ⟨n, f.stores.clock, m, rfl⟩
  · rename_i s
    split
    · rename_i x hx
      intro hnone
      have hid : x.conversationId = s.context.conversationId := by
        obtain ⟨-, -, rfl⟩ := Session.resume_eq_ok.1 hx
        rfl
      refine ⟨rfl, ?_⟩
      rw [hid, h (hid ▸ hnone)]
      exact Session.describes_of_resume hx
    · trivial

/-- Nothing is found that is not there. -/
theorem Leads.found {s : Stage} {definitions : Dict Machine} (h : f.Leads c s definitions)
    (hfound : f.Found c.stage) (hfiled : f.stores.Filed) : f.Found s := by
  cases h with
  -- what is read of the stores is what is stored
  | @loaded r hstage hr =>
    unfold afterLoad
    split
    · trivial
    · rename_i s
      have hstored := hr _ rfl
      intro _
      rwa [hfiled _ s hstored]
    · have hstored := hr _ rfl
      split
      · rename_i n hcall
        intro _
        rwa [hcall] at hstored
      · trivial
  -- the machine goes with what was found before
  | cached hstage | late hstage | kept hstage =>
    rw [hstage] at hfound
    exact found_withMachine hfound
  | missed hstage | fetched hstage =>
    rw [hstage] at hfound
    exact hfound
  | shown | refused | closing | received => trivial

theorem Quiet.nobodyUnloads (h : f.Quiet) : NobodyUnloads f.calls := by
  intro i c hc
  refine InFlight.unloads_of_call ?_
  intro k hcall
  have hquiet := h.quiet i c hc
  simp [hcall, Call.isQuiet] at hquiet

/-- A conversation that has no actor had none, and of it nothing else is stored than before. -/
theorem Effect.vacant (h : f.OneEach) (hq : f.Quiet)
    (hq' : EachCall (·.call.isQuiet = true) f'.calls) (he : f.Effect f' t) {k : String}
    (hk : f'.registry.get? k = none) :
    f.registry.get? k = none ∧ f'.stores.stored k = f.stores.stored k := by
  cases he with
  | unseen hregistry hstores => exact ⟨hregistry ▸ hk, hstores.stored k⟩
  -- nobody unloads
  | taken _ _ _ _ _ _ _ hunloading =>
    obtain ⟨i, c, hc, hcall, -⟩ := hunloading
    have hquiet := hq' i c hc
    simp [hcall, Call.isQuiet] at hquiet
  | registered _ _ _ _ hregistry hstores =>
    rw [hregistry, Dict.get?_insert] at hk
    split at hk
    · cases hk
    · exact ⟨hk, by rw [hstores]⟩
  | left hc hstage => exact absurd hstage ((hq.stays _ _ hc).2 _)
  | @worked n j x command r hx hhandled hregistry =>
    rw [hregistry] at hk
    refine ⟨hk, hhandled.stored_of_ne ?_⟩
    -- the actor that handles the command is registered
    rintro rfl
    have hin := h.listed.registered hq.nobodyUnloads hx
    rw [(h.upToDate n j x hx).1] at hk
    cases hk.symm.trans hin

theorem Effect.filed (he : f.Effect f' t) (hs : f.stores.Filed) : f'.stores.Filed := by
  cases he with
  | unseen _ hstores => exact fun k s hk => hs k s ((hstores.stored k).symm.trans hk)
  | taken _ _ _ _ _ hstores => exact hstores ▸ hs
  | registered _ _ _ _ _ hstores => exact hstores ▸ hs
  | left _ _ _ _ _ hstores => exact hstores ▸ hs
  | worked _ hhandled => exact hhandled.filed hs

/-- No session is out of date when its actor is registered. -/
theorem Quiet.not_registersStale (h : f.Quiet) (he : f.Effect f' t) : ¬ f.RegistersStale t f' := by
  rintro ⟨i, c, x, rfl, hc, hstage, hnew, hstale⟩
  have hfound : f.Found c.stage := h.found i c hc
  rw [hstage] at hfound
  refine hstale (hfound ?_)
  -- only where the conversation has no actor is one registered, and there the session was found
  cases he with
  | unseen _ _ hlives => exact absurd ((hlives _ _ _).1 hnew).lt (Nat.lt_irrefl _)
  | taken _ _ _ _ _ _ hboxes => exact absurd (hboxes ▸ hnew).lt (Nat.lt_irrefl _)
  | left _ _ _ _ _ _ hboxes => exact absurd (hboxes ▸ hnew).lt (Nat.lt_irrefl _)
  | registered hc' hstage' _ hnone =>
    cases hc.symm.trans hc'
    cases hstage.symm.trans hstage'
    exact hnone

theorem Quiet.take (hs : f.Sound) (h1 : f.OneEach) (h : f.Quiet) (t : Turn) :
    (f.take t).OneEach ∧ (f.take t).Quiet := by
  have heffect := take_effect hs t
  have hquiet : EachCall (·.call.isQuiet = true) (f.take t).calls :=
    take_eachCall h.quiet (fun _ _ hc => hc) (fun _ _ hc _ => hc) (fun _ _ _ hc _ => hc) t
  have hfound : EachCall (f.Found ·.stage) (f.take t).calls :=
    take_eachCall h.found (fun _ _ hc => hc) (fun _ _ _ => found_of_isPlain)
      (fun _ _ _ hc hleads => hleads.found hc h.filed) t
  -- no end of a contact drops an actor, so all stay listed
  have hlisted := (heffect.listed_iff h1.listed).2 (not_dropsLive_of_stays h.stays)
  have hone : (f.take t).OneEach :=
    ⟨fun _ _ _ _ _ hx hy => hlisted.single (hs.take t).inOrder hx hy, hlisted,
    (heffect.upToDate_iff h1).2 (h.not_registersStale heffect)⟩
  refine ⟨hone, stays_take h.stays t, hquiet, heffect.filed h.filed, ?_⟩
  intro i c hc
  exact (hfound i c hc).vacant fun k => heffect.vacant h1 h hquiet

theorem Quiet.after (hs : f.Sound) (h1 : f.OneEach) (h : f.Quiet) (ms : List Moment) :
    (f.after ms).OneEach := by
  refine (hs.run (P := fun g => g.OneEach ∧ g.Quiet) ⟨h1, h⟩ ?_ ms).2.1
  rintro g (t | now) hg ⟨hone, hquiet⟩
  · exact hquiet.take hg hone t
  · exact ⟨⟨hone.single, hone.listed, hone.upToDate⟩,
      ⟨hquiet.stays, hquiet.quiet, hquiet.filed, hquiet.found⟩⟩

end Floor

namespace Manager

open Floor

variable {stores : Stores} {hooks : Hooks} {size : Nat} {calls : List Call}

theorem stays_floor (hcalls : ∀ call ∈ calls, call.goesOn = true) :
    EachCall InFlight.Stays ((fresh stores hooks size).floor calls).calls :=
  eachCall_floor stores hooks size calls fun call hcall => ⟨hcalls call hcall, by simp⟩

/-- Where no call ends a contact, each conversation has one actor at most. -/
theorem single_without_ends (hcalls : ∀ call ∈ calls, call.goesOn = true) (ms : List Moment)
    {m n : Nat} {k : String} {x y : Session}
    (hx : Lives (((fresh stores hooks size).floor calls).after ms).boxes m k x)
    (hy : Lives (((fresh stores hooks size).floor calls).after ms).boxes n k y) : m = n := by
  have hs := sound_floor stores hooks size calls
  have hlisted := (oneEach_floor stores hooks size calls).listed.after hs (stays_floor hcalls) ms
  exact hlisted.single (hs.after ms).inOrder hx hy

/-- Where no call unloads either, and the store has filed snapshots under their own ids, the actor
    of a conversation is the one in the registry and its session the one stored. -/
theorem one_each_of_quiet (hstores : stores.Filed) (hcalls : ∀ call ∈ calls, call.isQuiet = true)
    (ms : List Moment) :
    (((fresh stores hooks size).floor calls).after ms).OneEach := by
  have hgoesOn : ∀ call ∈ calls, call.goesOn = true := by
    intro call hcall
    have hquiet := hcalls call hcall
    cases call <;> first | rfl | cases hquiet
  refine Quiet.after (sound_floor stores hooks size calls)
    (oneEach_floor stores hooks size calls) ?_ ms
  refine ⟨stays_floor hgoesOn, ?_, hstores, ?_⟩
  · exact eachCall_floor stores hooks size calls hcalls
  · exact eachCall_floor stores hooks size calls fun _ _ => trivial

end Manager
end Dialogue.Live
