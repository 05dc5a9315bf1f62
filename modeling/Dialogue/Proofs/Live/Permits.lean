import Mathlib.Data.List.Basic
import Dialogue.Live.Interleaving

/-! # Who holds the registry

    Each permit of the registry is free, or lies with a call that still waits for others, or is held
    by a call (`account`). Handing permits on neither loses any nor adds one (`account_hand`).
    Whoever waits is in a queue once, at the point where it waits (`Queued`), and is served in order
    or waits on (`Queued.handed`). -/

namespace Dialogue.Live

namespace InFlight

/-- The next step of the call is one at the registry. -/
def atRegistry (c : InFlight) : Bool :=
  match c.stage, c.call with
  | .begun, .definition .. => false
  | .begun, _ | .spawning _, _ | .leaving _, _ => true
  | _, _ => false

/-- The call has taken a conversation out of the registry, and keeps the registry until
    its actor has stopped. -/
def unloads (c : InFlight) : Bool :=
  match c.call, c.stage with
  | .unload _, .sending _ | .unload _, .waiting _ | .unload _, .replied _ => true
  | _, _ => false

/-- How much of the registry the call needs for its next step. -/
def share (c : InFlight) : Nat := Floor.share c.call c.stage

/-- How many permits the call holds. -/
def permits (c : InFlight) : Nat :=
  if c.unloads then registryReaders else if c.atRegistry && c.served then c.share else 0

theorem share_pos (c : InFlight) : 0 < c.share := by
  unfold share Floor.share
  split
  · split <;> decide
  · decide

theorem unloads_of_atRegistry {c : InFlight} (h : c.atRegistry = true) : c.unloads = false := by
  unfold unloads
  split <;> simp_all [atRegistry]

theorem unloads_of_call {c : InFlight} (h : ∀ k, c.call ≠ .unload k) : c.unloads = false := by
  unfold unloads
  split <;> simp_all

theorem permits_served {c : InFlight} (h : c.atRegistry = true) (hs : c.served = true) :
    c.permits = c.share := by
  simp [permits, unloads_of_atRegistry h, h, hs]

theorem permits_unserved {c : InFlight} (h : c.atRegistry = true) (hs : c.served = false) :
    c.permits = 0 := by
  simp [permits, unloads_of_atRegistry h, hs]

theorem permits_loading (c : InFlight) : permits { c with stage := .loading } = 0 := by
  simp [permits, unloads, atRegistry]

end InFlight

/-! ### Queues -/

/-- The ids of a queue are those of different calls, each of them where the queue has it. -/
structure Queued (calls : List InFlight) (ids : List Nat) (P : InFlight → Prop) : Prop where
  nodup : ids.Nodup
  placed : ∀ i ∈ ids, ∃ c, calls[i]? = some c ∧ P c

section

variable {calls : List InFlight} {ids : List Nat} {P : InFlight → Prop} {i : Nat} {c : InFlight}

theorem Queued.nil (calls : List InFlight) (P : InFlight → Prop) : Queued calls [] P :=
  ⟨.nil, by simp⟩

theorem Queued.not_mem (h : Queued calls ids P) (hc : calls[i]? = some c) (hP : ¬ P c) :
    i ∉ ids := by
  intro hi
  obtain ⟨c', hc', hP'⟩ := h.placed i hi
  cases hc.symm.trans hc'
  exact hP hP'

theorem getElem?_modify_self {g : InFlight → InFlight} (hc : calls[i]? = some c) :
    (calls.modify i g)[i]? = some (g c) := by
  simp [hc]

theorem getElem?_modify_ne {g : InFlight → InFlight} {j : Nat} (hj : j ≠ i) :
    (calls.modify i g)[j]? = calls[j]? := by
  simp [hj.symm]

/-- A step of a call that is not in the queue leaves the queue. -/
theorem Queued.modify (h : Queued calls ids P) (hi : i ∉ ids) (g : InFlight → InFlight) :
    Queued (calls.modify i g) ids P := by
  refine ⟨h.nodup, ?_⟩
  intro j hj
  have hne : j ≠ i := by
    rintro rfl
    exact hi hj
  rw [getElem?_modify_ne hne]
  exact h.placed j hj

theorem Queued.append (h : Queued calls ids P) (hi : i ∉ ids) (hc : calls[i]? = some c) (hP : P c) :
    Queued calls (ids ++ [i]) P := by
  refine ⟨List.nodup_append.2 ⟨h.nodup, by simp, ?_⟩, ?_⟩
  · intro a ha b hb hab
    rw [List.mem_singleton.1 hb] at hab
    exact hi (hab ▸ ha)
  · intro j hj
    rcases List.mem_append.1 hj with hj | hj
    · exact h.placed j hj
    · rw [List.mem_singleton.1 hj]
      exact ⟨c, hc, hP⟩

theorem Queued.tail (h : Queued calls (i :: ids) P) : i ∉ ids ∧ Queued calls ids P :=
  ⟨(List.nodup_cons.1 h.nodup).1, (List.nodup_cons.1 h.nodup).2,
    fun j hj => h.placed j (List.mem_cons_of_mem i hj)⟩

end

/-! ### Who is served -/

/-- The calls when those of a list have been served. -/
def servedAll (calls : List InFlight) (ids : List Nat) : List InFlight :=
  ids.foldl (fun calls i => calls.modify i fun c => { c with served := true }) calls

theorem getElem?_servedAll (ids : List Nat) (calls : List InFlight) (j : Nat) :
    (servedAll calls ids)[j]? = calls[j]?.map fun c =>
      { c with served := c.served || decide (j ∈ ids) } := by
  induction ids generalizing calls with
  | nil => cases h : calls[j]? <;> simp [servedAll, h]
  | cons i ids ih =>
    have hstep :
      servedAll calls (i :: ids) = servedAll (calls.modify i fun c => { c with served := true })
      ids := rfl
    rw [hstep, ih]
    by_cases hij : j = i
    · subst hij
      cases h : calls[j]? <;> simp [h]
    · rw [getElem?_modify_ne hij]
      simp [hij]

/-- A queue stays when calls are served that are not in it. -/
theorem Queued.afterServing {calls : List InFlight} {ids served : List Nat} {P : InFlight → Prop}
    (h : Queued calls ids P) (hserved : ∀ i ∈ served, i ∉ ids) :
    Queued (servedAll calls served) ids P := by
  refine ⟨h.nodup, ?_⟩
  intro j hj
  obtain ⟨c, hc, hP⟩ := h.placed j hj
  have hnot : j ∉ served := fun hmem => hserved j hmem hj
  exact ⟨c, by simp [getElem?_servedAll, hc, hnot], hP⟩

/-- Whoever waited is served, in order, or waits on. -/
theorem Permits.hand_ids (n : Nat) (ws : List (Nat × Nat)) :
    (hand n ws).2 ++ (hand n ws).1.waiting.map Prod.fst = ws.map Prod.fst := by
  induction ws generalizing n with
  | nil => rfl
  | cons w ws ih =>
    obtain ⟨i, lacked⟩ := w
    unfold hand
    split
    · simp [ih]
    · simp

/-- Who waits on waits where he did. -/
theorem Queued.handed {calls : List InFlight} {n : Nat} {ws : List (Nat × Nat)}
    {P : InFlight → Prop} (h : Queued calls (ws.map Prod.fst) P) :
    Queued (servedAll calls (Permits.hand n ws).2)
        ((Permits.hand n ws).1.waiting.map Prod.fst) P := by
  have hids := Permits.hand_ids n ws
  have hnodup := h.nodup
  rw [← hids] at hnodup
  obtain ⟨-, hwaiting, hapart⟩ := List.nodup_append.1 hnodup
  refine Queued.afterServing ⟨hwaiting, ?_⟩ fun j hserved hj => hapart j hserved j hj rfl
  intro j hj
  exact h.placed j (by rw [← hids]; exact List.mem_append_right _ hj)

/-- Who has been served had waited. -/
theorem Queued.served {calls : List InFlight} {n : Nat} {ws : List (Nat × Nat)}
    {P : InFlight → Prop} (h : Queued calls (ws.map Prod.fst) P) {j : Nat}
    (hj : j ∈ (Permits.hand n ws).2) : ∃ c, calls[j]? = some c ∧ P c :=
  h.placed j (by rw [← Permits.hand_ids n ws]; exact List.mem_append_left _ hj)

/-! ### The account -/

/-- How many permits the call with the number needs. -/
def need (calls : List InFlight) (i : Nat) : Nat := (calls[i]?.map InFlight.share).getD 0

/-- The permits that calls hold. -/
def held : List InFlight → Nat
  | [] => 0
  | c :: calls => c.permits + held calls

/-- The permits that lie with those who wait for more. -/
def kept (calls : List InFlight) : List (Nat × Nat) → Nat
  | [] => 0
  | (i, lacked) :: ws => need calls i - lacked + kept calls ws

/-- All permits that are free, held or kept. -/
def account (p : Permits) (calls : List InFlight) : Nat :=
  p.free + held calls + kept calls p.waiting

section

variable {calls : List InFlight} {i : Nat} {c : InFlight} {ws : List (Nat × Nat)}

theorem held_modify {g : InFlight → InFlight} (hc : calls[i]? = some c) :
    held (calls.modify i g) + c.permits = held calls + (g c).permits := by
  induction calls generalizing i with
  | nil => simp at hc
  | cons d calls ih =>
    cases i with
    | zero =>
      obtain rfl : d = c := by simpa using hc
      simp only [held, List.modify_zero_cons]
      omega
    | succ i =>
      have hrest := ih (i := i) (by simpa using hc)
      simp only [held, List.modify_succ_cons]
      omega

theorem permits_le_held (hc : calls[i]? = some c) : c.permits ≤ held calls := by
  have h := held_modify (g := fun c => { c with stage := .loading }) hc
  have hzero := c.permits_loading
  omega

/-- Two calls hold their permits each. -/
theorem permits_add_le_held {j : Nat} {d : InFlight} (hj : j ≠ i) (hc : calls[i]? = some c)
    (hd : calls[j]? = some d) :
    c.permits + d.permits ≤ held calls := by
  have h := held_modify (g := fun c => { c with stage := .loading }) hc
  have hzero := c.permits_loading
  have hother :=
    permits_le_held ((getElem?_modify_ne (g := fun c => { c with stage := .loading }) hj).trans hd)
  omega

theorem kept_congr {calls' : List InFlight} (h : ∀ w ∈ ws, need calls' w.1 = need calls w.1) :
    kept calls' ws = kept calls ws := by
  induction ws with
  | nil => rfl
  | cons w ws ih =>
    have hfirst : need calls' w.1 = need calls w.1 := h w List.mem_cons_self
    rw [kept, kept, hfirst, ih fun v hv => h v (List.mem_cons_of_mem w hv)]

theorem kept_concat (i lacked : Nat) :
    kept calls (ws ++ [(i, lacked)]) = kept calls ws + (need calls i - lacked) := by
  induction ws with
  | nil => simp [kept]
  | cons w ws ih =>
    simp only [List.cons_append, kept, ih]
    omega

/-- A step of a call that does not wait leaves what lies with those who do. -/
theorem kept_modify {g : InFlight → InFlight} (hi : i ∉ ws.map Prod.fst) :
    kept (calls.modify i g) ws = kept calls ws := by
  refine kept_congr ?_
  intro w hw
  have hne : w.1 ≠ i := by
    rintro rfl
    exact hi (List.mem_map_of_mem hw)
  rw [need, getElem?_modify_ne hne, need]

theorem need_servedAll (ids : List Nat) (j : Nat) :
    need (servedAll calls ids) j = need calls j := by
  rw [need, getElem?_servedAll, need]
  cases calls[j]? <;> rfl

theorem held_congr {calls' : List InFlight}
    (h : calls'.map InFlight.permits = calls.map InFlight.permits) :
    held calls' = held calls := by
  induction calls generalizing calls' with
  | nil => rw [List.map_eq_nil_iff.1 h]
  | cons c calls ih =>
    cases calls' with
    | nil => cases h
    | cons c' calls' =>
      obtain ⟨hfirst, hrest⟩ := List.cons.inj h
      rw [held, held, hfirst, ih hrest]

/-- Calls that are served elsewhere than at the registry hold what they held. -/
theorem held_servedAll {ids : List Nat}
    (h : ∀ i ∈ ids, ∀ c, calls[i]? = some c → c.atRegistry = false) :
    held (servedAll calls ids) = held calls := by
  refine held_congr (List.ext_getElem? ?_)
  intro j
  rw [List.getElem?_map, List.getElem?_map, getElem?_servedAll, Option.map_map]
  cases hc : calls[j]? with
  | none => rfl
  | some c =>
    by_cases hj : j ∈ ids
    · have hregistry := h j hj c hc
      have hsame : InFlight.permits { c with served := c.served || decide (j ∈ ids) } =
          c.permits := by
        have hregistry' : InFlight.atRegistry { c with served := c.served || decide (j ∈ ids) } =
          false := hregistry
        have hunloads : InFlight.unloads { c with served := c.served || decide (j ∈ ids) } =
          c.unloads := rfl
        simp only [InFlight.permits, hregistry, hregistry', hunloads, Bool.false_and,
          Bool.false_eq_true, if_false]
      exact congrArg some hsame
    · simp [hj]

/-- Permits that are handed on are not lost, and none is added. -/
theorem account_hand {n : Nat}
    (h : Queued calls (ws.map Prod.fst) fun c => c.atRegistry = true ∧ c.served = false) :
    account (Permits.hand n ws).1 (servedAll calls (Permits.hand n ws).2) ≤
        n + held calls + kept calls ws := by
  induction ws generalizing n calls with
  | nil => simp [Permits.hand, account, servedAll, kept]
  | cons w ws ih =>
    obtain ⟨i, lacked⟩ := w
    obtain ⟨hi, htail⟩ := h.tail
    obtain ⟨c, hc, hregistry, hserved⟩ := h.placed i (by simp)
    have hneed : need calls i = c.share := by simp [need, hc]
    unfold Permits.hand
    split
    · rename_i hle
      -- the first is served: he holds his share from now on
      let calls' := calls.modify i fun c => { c with served := true }
      have hheld : held calls' = held calls + c.share := by
        have hmodify : held calls' + c.permits = held calls + InFlight.permits
          { c with served := true } := held_modify hc
        rw [InFlight.permits_unserved hregistry hserved,
          InFlight.permits_served (c := { c with served := true }) hregistry rfl]
          at hmodify
        exact hmodify
      have hkept : kept calls' ws = kept calls ws := kept_modify hi
      have hrest :
          account (Permits.hand (n - lacked) ws).1
          (servedAll calls' (Permits.hand (n - lacked) ws).2) ≤
        n - lacked + held calls' + kept calls' ws := ih (htail.modify hi _)
      have hcons : kept calls ((i, lacked) :: ws) = c.share - lacked + kept calls ws := by
        simp [kept, hneed]
      calc
        account (Permits.hand (n - lacked) ws).1 (servedAll calls' (Permits.hand (n - lacked) ws).2)
        _ ≤ n - lacked + held calls' + kept calls' ws := hrest
        _ ≤ n + held calls + kept calls ((i, lacked) :: ws) := by rw [hheld, hkept, hcons]; omega
    · simp only [account, servedAll, List.foldl_nil, kept, hneed]
      omega

end

end Dialogue.Live
