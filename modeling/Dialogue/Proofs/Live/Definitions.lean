import Mathlib.Logic.Function.Basic
import Dialogue.Proofs.Live.Durability

/-! # The cache of machines

    Machines are cached under a key that is made of a flow and a version id. The cache answers for
    the version that was asked for, and conversations that were started on different versions run on
    different machines, as long as no version that compiles shares its key with other ids; one that
    does is answered for them (`definitions_right_iff`). Ids that hold the mark between the parts of
    the key do that (`answered_for_another_version`). -/

namespace Dialogue.Live

open Time Dialogue.Flow Conversation StateMachine Memory

/-- Every version is answered under its own ids. -/
def Stores.OwnIds (s : Stores) : Prop :=
  ∀ f v ver, s.backend.getVersion f v = .ok (some ver) → ver.flowId = f ∧ ver.id = v

/-- The machine is that of the version with its ids. -/
def Stores.Compiles (s : Stores) (m : Machine) : Prop :=
  ∃ ver, s.backend.getVersion m.flowId m.versionId = .ok (some ver) ∧ compile ver = .ok m

/-- No other ids make the key of a version that compiles. -/
def Stores.KeysApart (s : Stores) : Prop :=
  ∀ m, s.Compiles m → ∀ f v, machineId f v = machineId m.flowId m.versionId → f = m.flowId ∧
    v = m.versionId

/-- The flow and version ids that each conversation was started on. -/
abbrev Origins := String → Option (String × String)

namespace Manager

/-! ### Runs on one source -/

/-- A new contact starts a conversation that has no actor and no snapshot. -/
def originsAfter (w : Manager) (o : Origins) : Call → Origins
  | .begin n =>
    if w.actors.get? n.conversationId = none ∧ w.stores.stored n.conversationId = none then
      Function.update o n.conversationId (some (n.flowId, n.versionId))
    else o
  | _ => o

/-- The managers that calls lead to while the versions stay those of `s`, each with the ids that the
    conversations were started on. -/
inductive Runs (s : Stores) : Manager → Origins → Prop
  | fresh {hooks : Hooks} {size : Nat} : (∀ c, s.stored c = none) →
      Runs s (.fresh s hooks size) fun _ => none
  | call {w : Manager} {o : Origins} (c : Call) :
      Runs s w o → Runs s (w.call c).1 (w.originsAfter o c)
  | meanwhile {w : Manager} {o : Origins} {t : Stores} :
      Runs s w o → (∀ c, t.stored c = w.stores.stored c) →
      (∀ f v, t.backend.getVersion f v = s.backend.getVersion f v) → Runs s { w with stores := t } o

theorem Runs.reachable {s : Stores} {w : Manager} {o : Origins} (h : Runs s w o) : Reachable w := by
  induction h with
  | fresh hnone => exact .fresh hnone
  | call c _ ih => exact .call c ih
  | meanwhile _ ht _ ih => exact .meanwhile ih ht

/-- A machine that was compiled has the ids of its version. -/
theorem ids_of_compile {ver : Version} {m : Machine} (h : compile ver = .ok m) :
    m.flowId = ver.flowId ∧ m.versionId = ver.id := by
  obtain ⟨first, -, rfl⟩ := (compile_eq_ok.1 h).machine
  exact ⟨rfl, rfl⟩

theorem compiles_of_getVersion {s : Stores} (hown : s.OwnIds) {f v : String} {ver : Version}
    {m : Machine} (hver : s.backend.getVersion f v = .ok (some ver)) (hc : compile ver = .ok m) :
    m.flowId = f ∧ m.versionId = v ∧ s.Compiles m := by
  obtain ⟨hflow, hversion⟩ := ids_of_compile hc
  obtain ⟨hf, hv⟩ := hown f v ver hver
  have hmf : m.flowId = f := hflow.trans hf
  have hmv : m.versionId = v := hversion.trans hv
  exact ⟨hmf, hmv, ver, by rw [hmf, hmv]; exact hver, hc⟩

/-! ### What is traced to its version -/

/-- Cached machines lie under their own keys, and conversations run on the version they were started
    on; a snapshot names it. -/
structure Traced (s : Stores) (w : Manager) (o : Origins) : Prop where
  versions : ∀ f v, w.stores.backend.getVersion f v = s.backend.getVersion f v
  cached : ∀ k m, w.definitions.get? k = some m → s.Compiles m ∧ k = machineId m.flowId m.versionId
  live : ∀ c x, w.actors.get? c = some (.live x) →
    s.Compiles x.machine ∧ o c = some (x.machine.flowId, x.machine.versionId)
  stored : ∀ c t, w.stores.stored c = some t → o c = some (t.flowId, t.versionId)

variable {s : Stores} {w w' : Manager} {o : Origins}

/-- A machine that is cached under a key was compiled from the version that the key was made for. -/
theorem Traced.cached_ids (h : Traced s w o) (hapart : s.KeysApart) {f v : String} {m : Machine}
    (hm : w.definitions.get? (machineId f v) = some m) :
    m.flowId = f ∧ m.versionId = v ∧ s.Compiles m := by
  obtain ⟨hc, hk⟩ := h.cached _ m hm
  obtain ⟨rfl, rfl⟩ := hapart m hc f v hk
  exact ⟨rfl, rfl, hc⟩

theorem traced_fresh (h : ∀ c, s.stored c = none) (hooks : Hooks) (size : Nat) :
    Traced s (.fresh s hooks size) fun _ => none where
  versions _ _ := rfl
  cached k m hm := by cases hm
  live c x hx := by cases hx
  stored c t ht := by
    rw [show (fresh s hooks size).stores = s from rfl, h c] at ht
    cases ht

theorem Traced.restored {t : Stores} (h : Traced s w o) (ht : ∀ c, t.stored c = w.stores.stored c)
    (hv : ∀ f v, t.backend.getVersion f v = s.backend.getVersion f v) :
    Traced s { w with stores := t } o where
  versions := hv
  cached := h.cached
  live := h.live
  stored c x hx := h.stored c x ((ht c).symm.trans hx)

theorem Traced.consulted (h : Traced s w o) (hown : s.OwnIds) (hw : w.Consulted w') :
    Traced s w' o where
  versions f v := (hw.stores.versions f v).trans (h.versions f v)
  cached k m hm := by
    rcases hw.definitions k m hm with hm | ⟨f, v, ver, hk, hver, hc⟩
    · exact h.cached k m hm
    · rw [h.versions] at hver
      obtain ⟨rfl, rfl, hcompiles⟩ := compiles_of_getVersion hown hver hc
      exact ⟨hcompiles, hk⟩
  live c x hx := h.live c x (by rwa [hw.actors] at hx)
  stored c t ht := h.stored c t (by rwa [hw.stores.stored] at ht)

/-- A conversation without an actor and a snapshot may be started on other ids. -/
theorem Traced.starting (h : Traced s w o) {c : String} (hactor : w.actors.get? c = none)
    (hstored : w.stores.stored c = none) (p : Option (String × String)) :
    Traced s w (Function.update o c p) where
  versions := h.versions
  cached := h.cached
  live k x hx := by
    have hk : k ≠ c := by
      rintro rfl
      rw [hactor] at hx
      cases hx
    rw [Function.update_of_ne hk]
    exact h.live k x hx
  stored k t ht := by
    have hk : k ≠ c := by
      rintro rfl
      rw [hstored] at ht
      cases ht
    rw [Function.update_of_ne hk]
    exact h.stored k t ht

/-- One conversation gets another actor, which runs on the version it was started on, and another
    snapshot, which names it. -/
theorem Traced.replacing {c : String} {a : Actor} {t : Stores} (h : Traced s w o)
    (hkeeps : w.stores.Keeps t)
    (hothers : ∀ k, k ≠ c → t.stored k = w.stores.stored k)
    (hstored : ∀ x, t.stored c = some x → o c = some (x.flowId, x.versionId))
    (hlive : ∀ x, a = .live x → s.Compiles x.machine ∧
        o c = some (x.machine.flowId, x.machine.versionId)) :
    Traced s { w with stores := t, actors := w.actors.insert c a } o where
  versions f v := (hkeeps.versions f v).trans (h.versions f v)
  cached := h.cached
  live k y hy := by
    rw [Dict.get?_insert] at hy
    split at hy
    · rename_i hk
      subst hk
      exact hlive y (Option.some.inj hy)
    · exact h.live k y hy
  stored k x hx := by
    by_cases hk : k = c
    · subst hk
      exact hstored x hx
    · exact h.stored k x ((hothers k hk).symm.trans hx)

theorem Traced.erasing (h : Traced s w o) (c : String) :
    Traced s { w with actors := w.actors.erase c } o where
  versions := h.versions
  cached := h.cached
  live k y hy := by
    rw [Dict.get?_erase] at hy
    split at hy
    · cases hy
    · exact h.live k y hy
  stored := h.stored

theorem Traced.found {c : String} {r : Except RuntimeError (Option String)} (h : Traced s w o)
    (hown : s.OwnIds) (hapart : s.KeysApart) (hf : w.Found c (w', r)) : Traced s w' o := by
  cases hf with
  | there _ => exact h
  | failed _ hc => exact h.consulted hown hc
  | unknown _ hc _ => exact h.consulted hown hc
  | @loaded w₁ t m x _ hc hstored hm hx =>
    obtain ⟨-, -, rfl⟩ := Session.resume_eq_ok.1 hx
    have h₁ := h.consulted hown hc
    refine h₁.replacing (t := w₁.stores) (.refl _) (fun _ _ => rfl) (h₁.stored c) ?_
    rintro _ ⟨⟩
    obtain ⟨hflow, hversion, hcompiles⟩ := h₁.cached_ids hapart hm
    refine ⟨hcompiles, ?_⟩
    rw [hflow, hversion]
    exact h.stored c t hstored

theorem Traced.sent {key : String} {x : Session} {c : Command} {a : Answer} (h : Traced s w o)
    (hid : x.conversationId = key) (hx : w.actors.get? key = some (.live x))
    (hs : w.Sent key x c (w', a)) :
    Traced s w' o := by
  obtain ⟨hcompiles, horigin⟩ := h.live key x hx
  obtain ⟨t, actor, rfl, he⟩ := sent_effect hid hs
  refine h.replacing he.keeps he.others ?_ ?_
  · intro u hu
    rcases he.stored u hu with hu | ⟨y, hy, rfl⟩
    · exact h.stored key u hu
    · rw [horigin, ← (he.goesOn y hy).2.1]
      rfl
  · intro y hy
    rw [(he.goesOn y hy).2.1]
    exact ⟨hcompiles, horigin⟩

/-- The ids of a conversation that a call starts may be noted before it does. -/
theorem Traced.noted (h : Traced s w o) (c : Call) : Traced s w (w.originsAfter o c) := by
  cases c with
  | begin n =>
    rw [originsAfter]
    split
    · rename_i hnew
      exact h.starting hnew.1 hnew.2 _
    · exact h
  | _ => exact h

/-- What a new contact reaches is traced when the ids of a conversation that starts are noted. -/
theorem Traced.reached {n : NewContact} {r : Except RuntimeError String} (h : Traced s w o)
    (hown : s.OwnIds) (hapart : s.KeysApart) (hr : w.Reached n (w', r)) :
    Traced s w' (w.originsAfter o (.begin n)) := by
  have hw := h.noted (.begin n)
  cases hr with
  | found hf => exact hw.found hown hapart hf
  | failed _ hc => exact hw.consulted hown hc
  | @started w₁ m hactor hc hstored hm =>
    have h₁ := hw.consulted hown hc
    refine h₁.replacing (t := w₁.stores) (.refl _) (fun _ _ => rfl) (h₁.stored _) ?_
    rintro _ ⟨⟩
    obtain ⟨hflow, hversion, hcompiles⟩ := h₁.cached_ids hapart hm
    have hmachine : (n.start w.stores.clock m).machine = m := rfl
    refine ⟨hcompiles, ?_⟩
    rw [hmachine, hflow, hversion, originsAfter, if_pos ⟨hactor, hstored⟩, Function.update_self]

theorem Traced.call (h : Traced s w o) (hsound : w.Sound) (hown : s.OwnIds) (hapart : s.KeysApart)
    (c : Call) :
    Traced s (w.call c).1 (w.originsAfter o c) := by
  have hw : w.Sound ∧ Traced s w (w.originsAfter o c) := ⟨hsound, h.noted c⟩
  refine (call_preserves (P := fun u => u.Sound ∧ Traced s u (w.originsAfter o c)) And.left ?_ ?_ ?_
    ?_ hw c ?_).2
  · rintro u u' k r ⟨hu, ht⟩ hf
    exact ⟨hu.found hf, ht.found hown hapart hf⟩
  · rintro u u' key x cmd a ⟨hu, ht⟩ hx hs
    exact ⟨hu.sent hx hs, ht.sent (hu.fits key x hx).id hx hs⟩
  · rintro u u' ⟨hu, ht⟩ hc
    exact ⟨hu.consulted hc, ht.consulted hown hc⟩
  · rintro u k ⟨hu, ht⟩
    exact ⟨hu.erasing k, ht.erasing k⟩
  · rintro n w₁ r rfl hr
    exact ⟨hsound.reached hr, h.reached hown hapart hr⟩

theorem Runs.traced (h : Runs s w o) (hown : s.OwnIds) (hapart : s.KeysApart) : Traced s w o := by
  induction h with
  | fresh hnone => exact traced_fresh hnone _ _
  | call c hw ih => exact ih.call hw.reachable.sound hown hapart c
  | meanwhile _ ht hv ih => exact ih.restored ht hv

/-! ### The exact condition -/

/-- The machine that the version with the ids compiles to, or the reason why there is none. -/
def rightAnswer (s : Stores) (f v : String) : Except RuntimeError Machine :=
  compileRead f v (s.backend.getVersion f v)

theorem compileRead_compiles {ver : Version} {m : Machine} (h : compile ver = .ok m)
    (f v : String) :
    compileRead f v (.ok (some ver)) = .ok m := by
  simp [compileRead, h, Except.mapError]

/-- The cache answers for the version that was asked for. -/
theorem Traced.definition (h : Traced s w o) (hapart : s.KeysApart) {f v : String}
    (hfault : w.stores.faults .getVersion = none) : (w.definition f v).2 = rightAnswer s f v := by
  rw [rightAnswer, ← h.versions]
  rcases w.definition_cases f v with ⟨m, hm, hdef⟩ | ⟨-, hread, -, -⟩
  · obtain ⟨rfl, rfl, ver, hver, hc⟩ := h.cached_ids hapart hm
    rw [hdef, h.versions, hver, compileRead_compiles hc]
  · rw [hread, Stores.getVersion_eq hfault]

/-- A version whose key is also made of other ids is answered for them once it is cached. -/
theorem definition_of_same_key {m : Machine} {f v f' v' : String} (h : (w.definition f v).2 = .ok m)
    (hkey : machineId f' v' = machineId f v) :
    ((w.definition f v).1.definition f' v').2 = .ok m := by
  have hcached := definition_cached (Prod.ext rfl h)
  rw [← hkey] at hcached
  rcases (w.definition f v).1.definition_cases f' v' with ⟨m', hm', hdef⟩ | ⟨hnone, -, -, -⟩
  · rw [hcached] at hm'
    cases hm'
    rw [hdef]
  · rw [hcached] at hnone
    cases hnone

/-- The machine that a conversation runs on. -/
def machine? (w : Manager) (c : String) : Option Machine :=
  match w.actors.get? c with
  | some (.live x) => some x.machine
  | _ => none

theorem Traced.machine? (h : Traced s w o) {c : String} {m : Machine} (hm : w.machine? c = some m) :
    o c = some (m.flowId, m.versionId) := by
  rw [Manager.machine?] at hm
  split at hm
  · rename_i x hx
    cases hm
    exact (h.live c x hx).2
  · cases hm

/-- Definitions are right in all runs exactly when the keys are apart, and then conversations that
    were started on different versions never share a machine. -/
theorem definitions_right_iff {s : Stores} (hown : s.OwnIds) (hnone : ∀ c, s.stored c = none) :
    ((∀ w o, Runs s w o → ∀ f v, w.stores.faults .getVersion = none →
        (w.definition f v).2 = rightAnswer s f v) ↔ s.KeysApart) ∧
      (s.KeysApart → ∀ w o, Runs s w o → ∀ c d m n, w.machine? c = some m → w.machine? d = some n →
        o c ≠ o d → m ≠ n) := by
  refine ⟨⟨?_, ?_⟩, ?_⟩
  · rintro hright m ⟨ver, hver, hc⟩ f v hkey
    -- The run: nothing fails, the version is asked for, then the other ids.
    let w₀ : Manager :=
      { fresh s (fun _ => none) 1 with stores := { s with faults := fun _ => none } }
    have hw₀ : Runs s w₀ fun _ => none := .meanwhile (.fresh hnone) (fun _ => rfl) fun _ _ => rfl
    have hfirst : (w₀.definition m.flowId m.versionId).2 = .ok m := by
      rw [hright w₀ _ hw₀ _ _ rfl, rightAnswer, hver, compileRead_compiles hc]
    have hw₁ : Runs s (w₀.definition m.flowId m.versionId).1 fun _ => none :=
      .call (.definition m.flowId m.versionId) hw₀
    have hfaults := (w₀.definition_consulted m.flowId m.versionId).stores.faults
    have hsecond := hright _ _ hw₁ f v (by rw [hfaults])
    rw [definition_of_same_key hfirst hkey, rightAnswer] at hsecond
    obtain ⟨ver', hver', hc'⟩ := compileRead_eq_ok hsecond.symm
    obtain ⟨hf, hv, -⟩ := compiles_of_getVersion hown hver' hc'
    exact ⟨hf.symm, hv.symm⟩
  · intro hapart w o hw f v hfault
    exact (hw.traced hown hapart).definition hapart hfault
  · rintro hapart w o hw c d m n hm hn hne rfl
    have htraced := hw.traced hown hapart
    exact hne ((htraced.machine? hm).trans (htraced.machine? hn).symm)

/-! ### Keys -/

theorem toList_machineId (f v : String) :
    (machineId f v).toList = "flow_".toList ++ (f.toList ++ '_' :: 'v' :: '_' :: v.toList) := by
  simp [machineId, toString]

/-- A key says where its parts end when there is no underscore in them. -/
theorem machineId_unique {f v f' v' : String} (hf : '_' ∉ f.toList) (hv : '_' ∉ v.toList)
    (h : machineId f' v' = machineId f v) : f' = f ∧ v' = v := by
  have htext :
      f'.toList ++ '_' :: 'v' :: '_' :: v'.toList = f.toList ++ '_' :: 'v' :: '_' :: v.toList := by
    have := congrArg String.toList h
    rw [toList_machineId, toList_machineId] at this
    exact List.append_cancel_left this
  -- Both keys have as many underscores, so there is none in the other parts either.
  have hcount := congrArg (List.count '_') htext
  simp only [List.count_append, List.count_cons, List.count_eq_zero.2 hf,
    List.count_eq_zero.2 hv] at hcount
  have hf' : '_' ∉ f'.toList := List.count_eq_zero.1 (by simp at hcount; omega)
  have hflow : f'.toList = f.toList := by
    have hpre := congrArg (List.takeWhile (· ≠ '_')) htext
    have htake {cs rest : List Char} (hcs : '_' ∉ cs) :
        (cs ++ '_' :: rest).takeWhile (· ≠ '_') = cs := by
      rw [List.takeWhile_append_of_pos]
      · simp
      · intro c hc
        have hne : c ≠ '_' := fun he => hcs (he ▸ hc)
        simpa using hne
    rwa [htake hf', htake hf] at hpre
  rw [hflow] at htext
  have hversion := List.append_cancel_left htext
  simp only [List.cons.injEq, true_and] at hversion
  exact ⟨String.toList_inj.1 hflow, String.toList_inj.1 hversion⟩

/-- Ids without underscores keep the keys apart. -/
theorem keysApart_of_plain {s : Stores}
    (h : ∀ m, s.Compiles m → '_' ∉ m.flowId.toList ∧ '_' ∉ m.versionId.toList) :
    s.KeysApart := by
  intro m hm f v hkey
  obtain ⟨hflow, hversion⟩ := h m hm
  exact machineId_unique hflow hversion hkey

/-! ### Sources that hold versions -/

theorem get?_fileVersion (d : Dict (Dict Version)) (ver : Version) (f v : String) :
    ((fileVersion d ver).get? f).bind (·.get? v) =
      if f = ver.flowId ∧ v = ver.id then some ver else (d.get? f).bind (·.get? v) := by
  rw [fileVersion, Dict.get?_insert]
  by_cases hf : f = ver.flowId
  · subst hf
    simp only [if_true, Option.bind_some, Dict.get?_insert, true_and]
    split
    · rfl
    · cases d.get? ver.flowId <;> rfl
  · simp [hf]

theorem get?_foldl_fileVersion {ver : Version} {f v : String} {vs : List Version}
    {d : Dict (Dict Version)} (h : ((vs.foldl fileVersion d).get? f).bind (·.get? v) = some ver) :
    (ver ∈ vs ∧ ver.flowId = f ∧ ver.id = v) ∨ (d.get? f).bind (·.get? v) = some ver := by
  induction vs generalizing d with
  | nil => exact .inr h
  | cons x vs ih =>
    rw [List.foldl_cons] at h
    rcases ih h with ⟨hmem, hids⟩ | h
    · exact .inl ⟨List.mem_cons_of_mem _ hmem, hids⟩
    · rw [get?_fileVersion] at h
      split at h
      · rename_i hids
        cases h
        exact .inl ⟨List.mem_cons_self, hids.1.symm, hids.2.symm⟩
      · exact .inr h

/-- What is held is one of the versions, and is asked for by its own ids. -/
theorem getVersion_stocked {vs : List Version} {ver : Version} {f v : String}
    (h : (stocked vs).backend.getVersion f v = .ok (some ver)) :
    ver ∈ vs ∧ ver.flowId = f ∧ ver.id = v := by
  rcases get?_foldl_fileVersion (Except.ok.inj h) with h | h
  · exact h
  · cases h

theorem ownIds_stocked (vs : List Version) : (stocked vs).OwnIds :=
  fun _ _ _ h => (getVersion_stocked h).2

/-- A source of two versions of one flow, whose ids have no underscore. -/
theorem booking_definitions_right :
    let s := stocked [booking [] "", { booking [] "Welcome back" with id := "v2" }]
    s.OwnIds ∧ (∀ c, s.stored c = none) ∧ s.KeysApart ∧
      ∀ w o, Runs s w o → ∀ f v, w.stores.faults .getVersion = none →
        (w.definition f v).2 = rightAnswer s f v := by
  intro s
  have hown : s.OwnIds := ownIds_stocked _
  have hnone : ∀ c, s.stored c = none := fun _ => rfl
  have hapart : s.KeysApart := by
    apply keysApart_of_plain
    rintro m ⟨ver, hver, -⟩
    obtain ⟨hmem, hf, hv⟩ := getVersion_stocked hver
    rw [← hf, ← hv]
    rcases List.mem_pair.1 hmem with rfl | rfl <;> decide
  exact ⟨hown, hnone, hapart, (definitions_right_iff hown hnone).1.2 hapart⟩

/-- The version `c` of the flow `a_v_b` and the version `b_v_c` of the flow `a` make
    the same key. -/
def crossed : Stores :=
  stocked [{ booking [] "" with flowId := "a_v_b", id := "c" },
    { booking [] "" with flowId := "a", id := "b_v_c" }]

/-- A conversation is started on the one, then another conversation on the other. -/
def crossedRun : Manager :=
  (((fresh crossed (fun _ => none) 1).call (.begin ⟨"c1", "k1", "a_v_b", "c", .phone⟩)).1.call
    (.begin ⟨"c2", "k2", "a", "b_v_c", .phone⟩)).1

/-- The version that is asked for first is answered for both, and both conversations
    run on its machine. -/
theorem answered_for_another_version : crossed.OwnIds ∧
    (∃ o, Runs crossed crossedRun o ∧ o "c1" = some ("a_v_b", "c") ∧ o "c2" = some ("a", "b_v_c")) ∧
    (crossedRun.definition "a" "b_v_c").2.map (·.versionId) = .ok "c" ∧
    (rightAnswer crossed "a" "b_v_c").map (·.versionId) = .ok "b_v_c" ∧
    (crossedRun.machine? "c1").isSome ∧ crossedRun.machine? "c2" = crossedRun.machine? "c1" :=
  ⟨ownIds_stocked _,
    ⟨_, .call _ (.call _ (.fresh fun _ => rfl)), by rfl, by rfl⟩, by rfl, by rfl, by rfl, by rfl⟩

end Manager
end Dialogue.Live
