import Mathlib.Data.List.Basic
import Mathlib.Data.List.Induction
import Dialogue.Dict

/-! # More on dictionaries

    Mapping and filtering are described by what they do to `get?`, like the other operations. What a
    filter keeps and what it drops make up the whole dictionary (`size_filter_add`). -/

namespace Dialogue

universe u v

variable {α : Type u} {β : Type v}

/-! ### Sorted lists of entries -/

/-- A key that stands at the front stands nowhere else. -/
theorem findEntry_above {k : String} {a : α} {rest : List (String × α)}
    (h : Ascending ((k, a) :: rest)) :
    findEntry k rest = none := by
  rw [Ascending, List.pairwise_cons] at h
  refine findEntry_eq_none ?_
  rintro e he rfl
  exact String.lt_irrefl _ (h.1 e he)

theorem findEntry_of_mem {e : String × α} : ∀ {es : List (String × α)}, Ascending es → e ∈ es →
    findEntry e.1 es = some e.2
  | (k, a) :: rest, h, he => by
    rw [Ascending, List.pairwise_cons] at h
    rcases List.mem_cons.1 he with rfl | hrest
    · simp [findEntry]
    · have hne : e.1 ≠ k := by
        intro hk
        have hlt := h.1 e hrest
        rw [hk] at hlt
        exact String.lt_irrefl _ hlt
      simp [findEntry, hne, findEntry_of_mem h.2 hrest]

theorem length_putEntry (k : String) (a : α) : ∀ {es : List (String × α)}, Ascending es →
    (putEntry k a es).length = if (findEntry k es).isSome then es.length else es.length + 1
  | [], _ => rfl
  | (k', a') :: rest, h => by
    rw [Ascending, List.pairwise_cons] at h
    unfold putEntry
    by_cases hk : k = k'
    · simp [findEntry, hk]
    · by_cases hlt : k < k'
      · -- all that follows is above `k'`, so `k` is not there
        have hnone : findEntry k rest = none := by
          refine findEntry_eq_none ?_
          rintro e he rfl
          exact String.lt_asymm hlt (h.1 e he)
        simp [findEntry, hk, hlt, hnone]
      · rw [if_neg hk, if_neg hlt, List.length_cons, length_putEntry k a h.2]
        simp only [findEntry, if_neg hk]
        split <;> rfl

theorem findEntry_map (f : α → β) (k : String) :
    ∀ es : List (String × α), findEntry k (es.map fun e => (e.1, f e.2)) = (findEntry k es).map f
  | [] => rfl
  | (k', a) :: rest => by
    by_cases hk : k = k'
    · simp [findEntry, hk]
    · simp [findEntry, hk, findEntry_map f k rest]

theorem findEntry_filter (keep : String → α → Bool) (k : String) : ∀ {es : List (String × α)},
    Ascending es → findEntry k (es.filter fun e => keep e.1 e.2) = (findEntry k es).filter (keep k)
  | [], _ => rfl
  | (k', a) :: rest, h => by
    have htail : Ascending rest := (List.pairwise_cons.1 h).2
    have ih := findEntry_filter keep k htail
    by_cases hk : k = k'
    · subst hk
      rw [findEntry_above h] at ih
      by_cases ha : keep k a = true
      · rw [List.filter_cons_of_pos (by simpa using ha)]
        simp [findEntry, Option.filter, ha]
      · rw [List.filter_cons_of_neg (by simpa using ha), ih]
        simp [findEntry, Option.filter, ha]
    · by_cases ha : keep k' a = true
      · rw [List.filter_cons_of_pos (by simpa using ha)]
        simp [findEntry, hk, ih]
      · rw [List.filter_cons_of_neg (by simpa using ha), ih]
        simp [findEntry, hk]

namespace Dict

/-! ### Filing -/

theorem size_insert (d : Dict α) (k : String) (a : α) :
    (d.insert k a).size = if d.contains k then d.size else d.size + 1 :=
  length_putEntry k a d.ascending

/-- A new key adds an entry. -/
theorem size_insert_new {d : Dict α} {k : String} (h : d.get? k = none) (a : α) :
    (d.insert k a).size = d.size + 1 := by
  simp [size_insert, contains, h]

@[simp] theorem insert_insert (d : Dict α) (k : String) (a b : α) :
    (d.insert k a).insert k b = d.insert k b := by
  ext1 x
  simp only [get?_insert]
  split <;> rfl

/-- Filing what is there already changes nothing. -/
theorem insert_of_get? {d : Dict α} {k : String} {a : α} (h : d.get? k = some a) :
    d.insert k a = d := by
  ext1 x
  rw [get?_insert]
  split
  · rename_i hx
    rw [hx, h]
  · rfl

theorem get?_insertMany {es : List (String × α)} (hes : Ascending es) (d : Dict α) (k : String) :
    (d.insertMany es).get? k = (findEntry k es).or (d.get? k) := by
  induction es generalizing d with
  | nil => rfl
  | cons e es ih =>
    obtain ⟨k', a⟩ := e
    have hstep : d.insertMany ((k', a) :: es) = (d.insert k' a).insertMany es := rfl
    rw [hstep, ih (List.pairwise_cons.1 hes).2, get?_insert]
    by_cases hk : k = k'
    · subst hk
      simp [findEntry, findEntry_above hes]
    · simp [findEntry, hk]

/-- Of the entries of one key the last one counts. -/
theorem get?_ofList (es : List (String × α)) (k : String) :
    (ofList es).get? k = (es.reverse.find? (·.1 = k)).map (·.2) := by
  induction es using List.reverseRecOn with
  | nil => rfl
  | append_singleton es e ih =>
    have hlast : ofList (es ++ [e]) = (ofList es).insert e.1 e.2 := by simp [ofList, insertMany]
    rw [hlast, get?_insert, ih, List.reverse_append, List.reverse_singleton, List.singleton_append,
      List.find?_cons]
    by_cases hk : k = e.1
    · simp [hk]
    · simp [hk, Ne.symm hk]

/-- Where both have a key, the upper one counts. -/
theorem get?_overlay (lower upper : Dict α) (k : String) :
    (lower.overlay upper).get? k = (upper.get? k).or (lower.get? k) :=
  get?_insertMany upper.ascending lower k

/-- A dictionary is made of its entries. -/
theorem ofList_entries (d : Dict α) : ofList d.entries = d := by
  ext1 k
  rw [ofList, get?_insertMany d.ascending, get?_empty, Option.or_none]
  rfl

theorem get?_of_mem {d : Dict α} {e : String × α} (h : e ∈ d.entries) : d.get? e.1 = some e.2 :=
  findEntry_of_mem d.ascending h

theorem mem_of_get? {d : Dict α} {k : String} {a : α} (h : d.get? k = some a) :
    (k, a) ∈ d.entries := by
  obtain ⟨e, he, rfl⟩ := findEntry_isSome.1 (Option.isSome_of_eq_some h)
  obtain rfl : e.2 = a := Option.some.inj ((get?_of_mem he).symm.trans h)
  exact he

/-! ### Mapping and filtering -/

@[simp] theorem get?_map (d : Dict α) (f : α → β) (k : String) :
    (d.map f).get? k = (d.get? k).map f :=
  findEntry_map f k d.entries

@[simp] theorem get?_filter (d : Dict α) (keep : String → α → Bool) (k : String) :
    (d.filter keep).get? k = (d.get? k).filter (keep k) :=
  findEntry_filter keep k d.ascending

theorem map_insert (d : Dict α) (f : α → β) (k : String) (a : α) :
    (d.insert k a).map f = (d.map f).insert k (f a) := by
  ext1 x
  simp only [get?_map, get?_insert]
  split <;> rfl

theorem map_erase (d : Dict α) (f : α → β) (k : String) :
    (d.erase k).map f = (d.map f).erase k := by
  ext1 x
  simp only [get?_map, get?_erase]
  split <;> rfl

/-- Filters that decide alike on what is there keep the same. -/
theorem filter_congr {d : Dict α} {p q : String → α → Bool}
    (h : ∀ k a, d.get? k = some a → p k a = q k a) :
    d.filter p = d.filter q := by
  ext1 k
  rw [get?_filter, get?_filter]
  cases hk : d.get? k with
  | none => rfl
  | some a => simp [Option.filter, h k a hk]

theorem get?_filter_not (d : Dict α) (p : String → Bool) (k : String) :
    (d.filter fun k _ => !p k).get? k = if p k then none else d.get? k := by
  rw [Dict.get?_filter]
  cases d.get? k <;> cases p k <;> rfl

theorem filter_filter_not (d : Dict α) (p q : String → Bool) :
    (d.filter fun k _ => !p k).filter (fun k _ => !q k) = d.filter fun k _ => !(p k || q k) := by
  ext1 k
  rw [get?_filter_not, get?_filter_not, get?_filter_not d fun k => p k || q k]
  cases p k <;> cases q k <;> rfl

theorem insert_filter_not (d : Dict α) {p : String → Bool} {c : String} (hc : p c = false) (a : α) :
    (d.filter fun k _ => !p k).insert c a = (d.insert c a).filter fun k _ => !p k := by
  ext1 k
  rw [get?_filter_not, Dict.get?_insert, Dict.get?_insert, get?_filter_not]
  by_cases hk : k = c
  · simp [hk, hc]
  · simp [hk]

theorem erase_eq_filter (d : Dict α) (c : String) : d.erase c = d.filter fun k _ => !(k == c) := by
  ext1 k
  rw [get?_filter_not d (· == c), Dict.get?_erase]
  simp only [beq_iff_eq]

theorem size_filter_map (d : Dict α) (f : α → β) (keep : String → β → Bool) :
    ((d.map f).filter keep).size = (d.filter fun k a => keep k (f a)).size := by
  have hentries : ((d.map f).filter keep).entries.length =
      (d.filter fun k a => keep k (f a)).entries.length := by
    simp only [filter, map, List.filter_map, List.length_map, Function.comp_def]
  exact hentries

/-- What is kept and what is dropped make up the whole. -/
theorem size_filter_add (d : Dict α) (keep : String → α → Bool) :
    (d.filter keep).size + (d.filter fun k a => !keep k a).size = d.size :=
  (List.length_eq_length_filter_add _).symm

end Dict
end Dialogue
