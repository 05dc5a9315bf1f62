/-! # Dictionaries keyed by text

    A dictionary keeps its entries in ascending order of their keys, each key once, so two
    dictionaries with the same answers to every look-up are equal (`Dict.ext_get?`). `get?` is the
    view: `insert`, `erase` and `empty` are described by what they do to it. -/

namespace Dialogue

universe u v

/-! ### Sorted lists of entries -/

/-- The value filed under `k`. -/
def findEntry (k : String) {α : Type u} : List (String × α) → Option α
  | [] => none
  | (k', a) :: rest => if k = k' then some a else findEntry k rest

/-- Files `a` under `k`, in place of what was there, keeping the keys in ascending order. -/
def putEntry (k : String) {α : Type u} (a : α) : List (String × α) → List (String × α)
  | [] => [(k, a)]
  | (k', a') :: rest =>
    if k = k' then (k, a) :: rest
    else if k < k' then (k, a) :: (k', a') :: rest
    else (k', a') :: putEntry k a rest

/-- The keys ascend. -/
abbrev Ascending {α : Type u} (es : List (String × α)) : Prop := es.Pairwise fun a b => a.1 < b.1

theorem lt_of_not_lt_of_ne {a b : String} (h : ¬ a < b) (hne : a ≠ b) : b < a := by
  rcases Classical.em (b < a) with hlt | hlt
  · exact hlt
  · exact absurd (String.le_antisymm (String.not_lt.1 hlt) (String.not_lt.1 h)) hne

theorem mem_putEntry {α : Type u} {k : String} {a : α} {e : String × α} :
    ∀ {es : List (String × α)}, e ∈ putEntry k a es → e = (k, a) ∨ e ∈ es
  | [], h => by simpa [putEntry] using h
  | (k', a') :: rest, h => by
    unfold putEntry at h
    split at h
    · simp only [List.mem_cons] at h ⊢
      exact h.imp_right Or.inr
    · split at h
      · simpa using h
      · simp only [List.mem_cons] at h ⊢
        rcases h with h | h
        · exact .inr (.inl h)
        · exact (mem_putEntry h).imp_right Or.inr

theorem ascending_putEntry {α : Type u} (k : String) (a : α) :
    ∀ {es : List (String × α)}, Ascending es → Ascending (putEntry k a es)
  | [], _ => by simp [putEntry]
  | (k', a') :: rest, h => by
    rw [Ascending, List.pairwise_cons] at h
    unfold putEntry
    split
    · rename_i hk
      subst hk
      exact List.pairwise_cons.2 h
    · rename_i hk
      split
      · rename_i hlt
        refine List.pairwise_cons.2 ⟨fun e he => ?_, List.pairwise_cons.2 h⟩
        rcases List.mem_cons.1 he with rfl | he
        · exact hlt
        · exact String.lt_trans hlt (h.1 e he)
      · rename_i hlt
        refine List.pairwise_cons.2 ⟨fun e he => ?_, ascending_putEntry k a h.2⟩
        rcases mem_putEntry he with rfl | he
        · exact lt_of_not_lt_of_ne hlt hk
        · exact h.1 e he

theorem findEntry_putEntry {α : Type u} (k : String) (a : α) (x : String) :
    ∀ es : List (String × α),
      findEntry x (putEntry k a es) = if x = k then some a else findEntry x es
  | [] => by simp [putEntry, findEntry]
  | (k', a') :: rest => by
    unfold putEntry
    split
    · rename_i hk
      subst hk
      by_cases hx : x = k <;> simp [findEntry, hx]
    · rename_i hk
      split
      · by_cases hx : x = k <;> simp [findEntry, hx]
      · have ih := findEntry_putEntry k a x rest
        by_cases hx : x = k
        · subst hx
          simp [findEntry, hk, ih]
        · simp [findEntry, ih, hx]

theorem findEntry_eq_none {α : Type u} {k : String} :
    ∀ {es : List (String × α)}, (∀ e ∈ es, e.1 ≠ k) → findEntry k es = none
  | [], _ => rfl
  | (k', a') :: rest, h => by
    have hk : k ≠ k' := fun e => h (k', a') (by simp) e.symm
    simp only [findEntry, hk, if_false]
    exact findEntry_eq_none fun e he => h e (by simp [he])

theorem findEntry_isSome {α : Type u} {k : String} :
    ∀ {es : List (String × α)}, (findEntry k es).isSome ↔ ∃ e ∈ es, e.1 = k
  | [] => by simp [findEntry]
  | (k', a') :: rest => by
    by_cases h : k = k'
    · subst h
      simp [findEntry]
    · simp only [findEntry, h, if_false]
      rw [findEntry_isSome]
      constructor
      · rintro ⟨e, he, hk⟩
        exact ⟨e, by simp [he], hk⟩
      · rintro ⟨e, he, hk⟩
        rcases List.mem_cons.1 he with rfl | he
        · exact absurd hk.symm h
        · exact ⟨e, he, hk⟩

theorem findEntry_filter_ne {α : Type u} (k x : String) :
    ∀ es : List (String × α),
      findEntry x (es.filter fun e => e.1 ≠ k) = if x = k then none else findEntry x es
  | [] => by simp [findEntry]
  | (k', a') :: rest => by
    have ih := findEntry_filter_ne k x rest
    by_cases hk : k' = k
    · subst hk
      rw [List.filter_cons_of_neg (by simp), ih]
      by_cases hx : x = k' <;> simp [findEntry, hx]
    · rw [List.filter_cons_of_pos (by simpa using hk)]
      by_cases hx : x = k'
      · subst hx
        simp [findEntry, hk]
      · simp only [findEntry, hx, if_false, ih]

/-- Ascending lists that answer every look-up alike are equal. -/
theorem Ascending.eq_of_findEntry {α : Type u} : ∀ {l₁ l₂ : List (String × α)}, Ascending l₁ →
    Ascending l₂ → (∀ k, findEntry k l₁ = findEntry k l₂) → l₁ = l₂
  | [], [], _, _, _ => rfl
  | [], (k, a) :: rest, _, _, h => by simpa [findEntry] using h k
  | (k, a) :: rest, [], _, _, h => by simpa [findEntry] using h k
  | (k, a) :: r₁, (k', a') :: r₂, h₁, h₂, h => by
    rw [Ascending, List.pairwise_cons] at h₁ h₂
    have hk : k = k' := by
      rcases Classical.em (k = k') with e | hne
      · exact e
      · have h1 := h k
        have h2 := h k'
        simp only [findEntry, if_true, hne, if_false, Ne.symm hne] at h1 h2
        obtain ⟨e₁, he₁, hk₁⟩ := findEntry_isSome.1 (h1 ▸ rfl : (findEntry k r₂).isSome)
        obtain ⟨e₂, he₂, hk₂⟩ := findEntry_isSome.1 (h2.symm ▸ rfl : (findEntry k' r₁).isSome)
        have l1 := h₂.1 e₁ he₁
        have l2 := h₁.1 e₂ he₂
        rw [hk₁] at l1
        rw [hk₂] at l2
        exact absurd l1 (String.lt_asymm l2)
    subst hk
    have ha : a = a' := by simpa [findEntry] using h k
    subst ha
    have hrest : r₁ = r₂ := Ascending.eq_of_findEntry h₁.2 h₂.2 fun x => by
      by_cases hx : x = k
      · subst hx
        rw [findEntry_eq_none fun e he hk =>
          absurd (h₁.1 e he) (by rw [hk]; exact String.lt_irrefl _),
          findEntry_eq_none fun e he hk =>
          absurd (h₂.1 e he) (by rw [hk]; exact String.lt_irrefl _)]
      · simpa [findEntry, hx] using h x
    rw [hrest]

/-! ### Dictionaries -/

/-- Entries in ascending order of their keys. -/
structure Dict (α : Type u) where
  entries : List (String × α)
  ascending : Ascending entries
  deriving DecidableEq, Repr

namespace Dict

variable {α : Type u} {β : Type v}

/-- Without entries. -/
def empty : Dict α := ⟨[], .nil⟩

instance : EmptyCollection (Dict α) := ⟨empty⟩
instance : Inhabited (Dict α) := ⟨empty⟩

/-- The value of a key. -/
def get? (d : Dict α) (k : String) : Option α := findEntry k d.entries

/-- The key has a value. -/
def contains (d : Dict α) (k : String) : Bool := (d.get? k).isSome

/-- Gives a key a value, in place of the one it had. -/
def insert (d : Dict α) (k : String) (a : α) : Dict α :=
  ⟨putEntry k a d.entries, ascending_putEntry k a d.ascending⟩

/-- Takes the value of a key away. -/
def erase (d : Dict α) (k : String) : Dict α :=
  ⟨d.entries.filter fun e => e.1 ≠ k, d.ascending.filter _⟩

/-- The entries that `keep` accepts. -/
def filter (d : Dict α) (keep : String → α → Bool) : Dict α :=
  ⟨d.entries.filter fun e => keep e.1 e.2, d.ascending.filter _⟩

/-- Changes every value. -/
def map (d : Dict α) (f : α → β) : Dict β :=
  ⟨d.entries.map fun e => (e.1, f e.2), d.ascending.map _ fun _ _ h => h⟩

/-- The keys in ascending order. -/
def keys (d : Dict α) : List String := d.entries.map (·.1)

/-- How many keys have a value. -/
def size (d : Dict α) : Nat := d.entries.length

/-- Files the entries one after the other; a later one replaces an earlier one of the same key. -/
def insertMany (d : Dict α) (es : List (String × α)) : Dict α :=
  es.foldl (fun d e => d.insert e.1 e.2) d

/-- Of two entries of one key the last counts. -/
def ofList (es : List (String × α)) : Dict α := empty.insertMany es

/-- All entries of both; where both have a key, the entry of `above`. -/
def overlay (d above : Dict α) : Dict α := d.insertMany above.entries

@[ext] theorem ext_get? {d₁ d₂ : Dict α} (h : ∀ k, d₁.get? k = d₂.get? k) : d₁ = d₂ := by
  have := d₁.ascending.eq_of_findEntry d₂.ascending h
  cases d₁
  cases d₂
  simpa using this

@[simp] theorem get?_empty (k : String) : (empty : Dict α).get? k = none := rfl

@[simp] theorem get?_insert (d : Dict α) (k : String) (a : α) (x : String) :
    (d.insert k a).get? x = if x = k then some a else d.get? x :=
  findEntry_putEntry k a x d.entries

@[simp] theorem get?_erase (d : Dict α) (k x : String) :
    (d.erase k).get? x = if x = k then none else d.get? x :=
  findEntry_filter_ne k x d.entries

end Dict
end Dialogue
