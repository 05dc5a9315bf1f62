import Mathlib.Logic.Relation
import Dialogue.Json.Record

/-! # Documents that say the same in other words

    The members of an object may be put into another order, and a record may be given members that
    its reader does not know. A layout says which places of a document are records, and which
    members each may be given; `Layout.Restates` is a run of such edits, each at one place however
    deep. A reader is blind to them (`Blind`) when it reads the same after an edit. Lists and
    records are blind when their parts are. -/

namespace Dialogue.Json

/-! ### Edits -/

/-- What stands at a place of a document, and below it. -/
inductive Layout where
  /-- Nothing is known of it. -/
  | any
  | list (items : Layout)
  /-- Beside the members it has, the record may be given others; each key has a layout
      of its own. -/
  | record (mayAdd : List (Option String × Written) → String → Written → Prop)
      (member : String → Layout)

namespace Layout

/-- The layout of the items of an array. -/
def items : Layout → Layout
  | list l => l
  | _ => any

/-- The layout of the member of a record with the key. -/
def under : Layout → Option String → Layout
  | record _ member, some key => member key
  | _, _ => any

/-- What may be added to the members of a record. -/
def MayAdd : Layout → List (Option String × Written) → String → Written → Prop
  | record mayAdd _ => mayAdd
  | _ => fun _ _ _ => False

/-- One edit at one place. -/
inductive Step : Layout → Written → Written → Prop where
  | reorder {l : Layout} {ms ms' : List (Option String × Written)} (h : ms.Perm ms') :
      Step l (.object ms) (.object ms')
  | item {l : Layout} {ws ws' : List Written} {w w' : Written} (h : Step l.items w w') :
      Step l (.array (ws ++ w :: ws')) (.array (ws ++ w' :: ws'))
  | member {l : Layout} {ms ms' : List (Option String × Written)} {key : Option String}
      {w w' : Written}
      (h : Step (l.under key) w w') :
      Step l (.object (ms ++ (key, w) :: ms')) (.object (ms ++ (key, w') :: ms'))
  | add {l : Layout} {ms : List (Option String × Written)} {key : String} {w : Written}
      (h : l.MayAdd ms key w) :
      Step l (.object ms) (.object ((some key, w) :: ms))

/-- Any number of edits. -/
abbrev Restates (l : Layout) : Written → Written → Prop := Relation.ReflTransGen l.Step

variable {l : Layout} {w w' : Written}

/-- Where nothing may be added, only members are put into another order; that may be
    done anywhere. -/
theorem Step.of_any (h : any.Step w w') (l : Layout) : l.Step w w' := by
  generalize hany : any = l' at h
  induction h generalizing l with
  | reorder hperm => exact .reorder hperm
  | item _ ih => exact .item (ih _ (hany ▸ rfl))
  | member _ ih => exact .member (ih _ (hany ▸ rfl))
  | add hadd => subst hany; exact hadd.elim

/-- `null` is not edited, and nothing is edited to `null`. -/
theorem Step.not_null (h : l.Step w w') : w ≠ .null ∧ w' ≠ .null := by
  cases h <;> simp

theorem null_of_restates (h : l.Restates w w') : w = .null ↔ w' = .null := by
  induction h with
  | refl => rfl
  | tail _ hstep ih =>
    have hnull := hstep.not_null
    exact ih.trans (iff_of_false hnull.1 hnull.2)

end Layout

/-! ### Blind readers -/

variable {α : Type} {l : Layout}

/-- The reader reads the same after an edit. -/
def Blind (l : Layout) (read : Written → Option α) : Prop := ∀ w w', l.Step w w' → read w' = read w

theorem Blind.restates {read : Written → Option α} (h : Blind l read) {w w' : Written}
    (hw : l.Restates w w') :
    read w' = read w := by
  induction hw with
  | refl => rfl
  | tail _ hstep ih => exact (h _ _ hstep).trans ih

/-- A reader that is blind to more edits is blind to any that only put members into
    another order. -/
theorem Blind.of_any {read : Written → Option α} (h : Blind l read) : Blind .any read :=
  fun w w' hw => h w w' (hw.of_any l)

/-- A reader of plain data, which finds none in arrays and objects, is blind. -/
theorem blind_plain {read : Written → Option α} (harray : ∀ ws, read (.array ws) = none)
    (hobject : ∀ ms, read (.object ms) = none) : Blind l read := by
  intro w w' h
  cases h <;> simp only [harray, hobject]

theorem blind_bool : Blind l Written.bool? := blind_plain (fun _ => rfl) fun _ => rfl

theorem blind_string : Blind l Written.string? := blind_plain (fun _ => rfl) fun _ => rfl

theorem blind_uint32 : Blind l Written.uint32? := blind_plain (fun _ => rfl) fun _ => rfl

theorem blind_uint64 : Blind l Written.uint64? := blind_plain (fun _ => rfl) fun _ => rfl

theorem choice?_eq_none {choices : List (String × α)} {ms : List (Option String × Written)}
    (h : ∀ name, ms ≠ [(some name, .null)]) : Written.choice? choices (.object ms) = none := by
  rw [Written.choice?]
  · rintro name ⟨⟩
  · rintro name ⟨⟩
    exact h name rfl

/-- An object that stands for a name has a single member, which is `null`, so there is
    nothing to edit. -/
theorem blind_choice {choices : List (String × α)} : Blind .any (Written.choice? choices) := by
  intro w w' h
  cases h with
  | @reorder _ ms ms' hperm =>
    by_cases hname : ∃ name, ms = [(some name, .null)]
    · obtain ⟨name, rfl⟩ := hname
      rw [List.singleton_perm.1 hperm]
    · have hname' : ¬ ∃ name, ms' = [(some name, .null)] := by
        rintro ⟨name, rfl⟩
        exact hname ⟨name, List.perm_singleton.1 hperm⟩
      rw [choice?_eq_none (not_exists.1 hname), choice?_eq_none (not_exists.1 hname')]
  | item => rfl
  | member hvalue =>
    have hvalue := Layout.Step.not_null hvalue
    rw [choice?_eq_none, choice?_eq_none]
    all_goals
      intro name hms
      simp_all [List.append_eq_singleton_iff]
  | add hadd => exact hadd.elim

theorem blind_list {read : Written → Option α} (h : Blind l read) :
    Blind (.list l) (Written.list? read) := by
  intro w w' hw
  cases hw with
  | item hitem => simp only [Written.list?, List.mapM_append, List.mapM_cons, h _ _ hitem]
  | reorder => rfl
  | member => rfl
  | add => rfl

/-! ### Members -/

/-- The members with keys that can be read. -/
def keyed (ms : List (Option String × Written)) : List (String × Written) :=
  ms.filterMap fun m => m.1.map fun key => (key, m.2)

theorem mem_keyed {ms : List (Option String × Written)} {key : String} {w : Written} :
    (key, w) ∈ keyed ms ↔ (some key, w) ∈ ms := by
  rw [keyed, List.mem_filterMap]
  constructor
  · rintro ⟨⟨k, x⟩, hm, hx⟩
    obtain ⟨_, rfl, hkey⟩ := Option.map_eq_some_iff.1 hx
    cases hkey
    exact hm
  · exact fun hm => ⟨_, hm, rfl⟩

theorem members?_eq (ms : List (Option String × Written)) :
    (Written.object ms).members? = if ms.all (·.1.isSome) then some (keyed ms) else none := by
  rw [Written.members?]
  induction ms with
  | nil => rfl
  | cons m ms ih =>
    obtain ⟨_ | key, w⟩ := m
    · rfl
    · rw [List.mapM_cons, ih, List.all_cons, Option.isSome_some, Bool.true_and]
      cases hkeys : ms.all (·.1.isSome) <;> simp [keyed]

/-- One edit of the members of a record, of which `mayAdd` may be added. -/
inductive Edit (mayAdd : String → Written → Prop) (member : String → Layout) :
    List (String × Written) → List (String × Written) → Prop where
  | reorder {es es' : List (String × Written)} (h : es.Perm es') : Edit mayAdd member es es'
  | change {es es' : List (String × Written)} {key : String} {w w' : Written}
      (h : (member key).Step w w') :
      Edit mayAdd member (es ++ (key, w) :: es') (es ++ (key, w') :: es')
  | add {es : List (String × Written)} {key : String} {w : Written} (h : mayAdd key w) :
      Edit mayAdd member es ((key, w) :: es)

variable {member : String → Layout}

/-- An edit of a record leaves its keys as readable as they are, and edits its members. -/
theorem Layout.Step.edit {mayAdd : List (Option String × Written) → String → Written → Prop}
    {ms : List (Option String × Written)} {w' : Written}
    (h : (record mayAdd member).Step (.object ms) w') :
    ∃ ms', w' = .object ms' ∧ ms'.all (·.1.isSome) = ms.all (·.1.isSome) ∧
      Edit (mayAdd ms) member (keyed ms) (keyed ms') := by
  generalize hw : Written.object ms = w at h
  cases h with
  | @reorder _ ms₁ ms' hperm =>
    cases hw
    exact ⟨ms', rfl, hperm.symm.all_eq, .reorder (hperm.filterMap _)⟩
  | item => cases hw
  | @member _ before after key x x' hstep =>
    cases hw
    refine ⟨_, rfl, by simp, ?_⟩
    cases key with
    | none => exact .reorder (by simp [keyed])
    | some key =>
      simp only [keyed, List.filterMap_append]
      exact .change hstep
  | @add _ _ key x hadd =>
    cases hw
    exact ⟨_, rfl, by simp, .add hadd⟩

/-- The members with some keys are edited too, if at all. -/
theorem Edit.filter {mayAdd : String → Written → Prop} {es es' : List (String × Written)}
    (h : Edit mayAdd member es es') (p : String → Bool) (member' : String → Layout)
    (hmember : ∀ key, p key → member' key = member key) :
    Edit (fun key w => mayAdd key w ∧ p key) member' (es.filter (p ·.1)) (es'.filter (p ·.1)) := by
  cases h with
  | reorder hperm => exact .reorder (hperm.filter _)
  | @change es es' key w w' hstep =>
    rw [List.filter_append, List.filter_append, List.filter_cons, List.filter_cons]
    split
    next hkey => exact .change (hmember key hkey ▸ hstep)
    · exact .reorder (.refl _)
  | @add es key w hadd =>
    rw [List.filter_cons]
    split
    next hkey => exact .add ⟨hadd, hkey⟩
    · exact .reorder (.refl _)

/-- What is an edit of the members is one of the object that they make. -/
theorem Edit.step {mayAdd : String → Written → Prop}
    {mayAdd' : List (Option String × Written) → String → Written → Prop}
    {es es' : List (String × Written)} (h : Edit mayAdd member es es')
    (hadd : ∀ key w, mayAdd key w → mayAdd' (es.map fun e => (some e.1, e.2)) key w) :
    (Layout.record mayAdd' member).Step (.object (es.map fun e => (some e.1, e.2)))
      (.object (es'.map fun e => (some e.1, e.2))) := by
  cases h with
  | reorder hperm => exact .reorder (hperm.map _)
  | change hstep =>
    rw [List.map_append, List.map_append]
    exact .member hstep
  | add h => exact .add (hadd _ _ h)

/-! ### Fields -/

/-- The same fields, each of them restated at most. -/
def Fields.Restate (member : String → Layout) (fs fs' : Fields) : Prop :=
  ∀ key, Option.Rel (member key).Restates (fs.lookup key) (fs'.lookup key)

theorem Fields.Restate.refl (fs : Fields) : Fields.Restate member fs fs := by
  intro key
  cases fs.lookup key with
  | none => exact .none
  | some w => exact .some .refl

theorem lookup_eq_some_of_nodup {es : List (String × Written)} (hnodup : (es.map (·.1)).Nodup)
    {key : String} {w : Written} : es.lookup key = some w ↔ (key, w) ∈ es := by
  induction es with
  | nil => simp
  | cons e es ih =>
    obtain ⟨hnew, hnodup⟩ := List.nodup_cons.1 hnodup
    rw [List.lookup_cons, List.mem_cons, ← ih hnodup]
    cases hkey : key == e.1 with
    | true =>
      have hlater : es.lookup e.1 = none := by
        rw [List.lookup_eq_none_iff]
        intro e' he'
        have hne : e.1 ≠ e'.1 := fun heq => hnew (List.mem_map.2 ⟨e', he', heq.symm⟩)
        simpa using hne
      simp [beq_iff_eq.1 hkey, hlater, Prod.ext_iff, eq_comm]
    | false => simp [beq_eq_false_iff_ne.1 hkey, Prod.ext_iff]

/-- Without any member added, the fields are restated. -/
theorem Edit.restate {mayAdd : String → Written → Prop} {es es' : List (String × Written)}
    (h : Edit mayAdd member es es') (hadd : ∀ key w, ¬ mayAdd key w) :
    ((es.map (·.1)).Nodup ↔ (es'.map (·.1)).Nodup) ∧
      ((es.map (·.1)).Nodup → Fields.Restate member es es') := by
  cases h with
  -- in whatever order, the one member with the key is found
  | reorder hperm =>
    have hkeys := (hperm.map (·.1)).nodup_iff
    refine ⟨hkeys, fun hnodup => ?_⟩
    intro key
    have hsame : es.lookup key = es'.lookup key := Option.ext fun w => by
      rw [lookup_eq_some_of_nodup hnodup, lookup_eq_some_of_nodup (hkeys.1 hnodup), hperm.mem_iff]
    rw [hsame]
    exact Fields.Restate.refl es' key
  -- the member that has changed is found under its key alone
  | @change before after key w w' hstep =>
    refine ⟨by simp, fun _ key' => ?_⟩
    rw [List.lookup_append, List.lookup_append, List.lookup_cons, List.lookup_cons]
    cases before.lookup key' with
    | some x => exact .some .refl
    | none =>
      cases hkey : key' == key with
      | true => exact .some (beq_iff_eq.1 hkey ▸ .single hstep)
      | false => exact Fields.Restate.refl after key'
  | add h => exact (hadd _ _ h).elim

theorem Edit.pick? {mayAdd : String → Written → Prop} {known : List String}
    {es es' : List (String × Written)} (h : Edit mayAdd member es es')
    (hadd : ∀ key w, mayAdd key w → key ∉ known) :
    Option.Rel (Fields.Restate member) (Fields.pick? known es) (Fields.pick? known es') := by
  obtain ⟨hnodup, hrestate⟩ :=
    (h.filter known.contains member fun _ _ => rfl).restate fun key w hw =>
    hadd key w hw.1 (List.contains_iff_mem.1 hw.2)
  rw [Fields.pick?, Fields.pick?]
  by_cases hkeys : ((es.filter fun e => known.contains e.1).map (·.1)).Nodup
  · rw [if_pos hkeys, if_pos (hnodup.1 hkeys)]
    exact .some (hrestate hkeys)
  · rw [if_neg hkeys, if_neg (hkeys ∘ hnodup.2)]
    exact .none

/-- In a record that is written without its keys, the field of the item is restated. -/
theorem restate_zip {w w' : Written} (h : Layout.any.Step w w') {after : List Written} :
    ∀ (known : List String) (before : List Written),
      Fields.Restate member (known.zip (before ++ w :: after)) (known.zip (before ++ w' :: after))
  | [], _ => Fields.Restate.refl []
  | key :: known, [] => by
    intro key'
    rw [List.nil_append, List.nil_append, List.zip_cons_cons, List.zip_cons_cons, List.lookup_cons,
      List.lookup_cons]
    cases key' == key with
    | true => exact .some (.single (h.of_any _))
    | false => exact Fields.Restate.refl (known.zip after) key'
  | key :: known, first :: before => by
    intro key'
    rw [List.cons_append, List.cons_append, List.zip_cons_cons, List.zip_cons_cons,
      List.lookup_cons, List.lookup_cons]
    cases key' == key with
    | true => exact .some .refl
    | false => exact restate_zip h known before key'

/-- A record that may be given members with other keys has its fields restated by an edit. -/
theorem Layout.Step.fields? {mayAdd : List (Option String × Written) → String → Written → Prop}
    {known : List String} (hadd : ∀ ms key w, mayAdd ms key w → key ∉ known) {w w' : Written}
    (h : (record mayAdd member).Step w w') :
    Option.Rel (Fields.Restate member) (w.fields? known) (w'.fields? known) := by
  have hobject (ms : List (Option String × Written)) : (Written.object ms).fields? known =
      if ms.all (·.1.isSome) then Fields.pick? known (keyed ms) else none := by
    rw [Written.fields?, members?_eq]
    · cases ms.all (·.1.isSome) <;> rfl
    · rintro ws ⟨⟩
  cases w with
  | object ms =>
    obtain ⟨ms', rfl, hkeys, hedit⟩ := h.edit
    rw [hobject, hobject, hkeys]
    cases ms.all (·.1.isSome) with
    | true => exact hedit.pick? (hadd ms)
    | false => exact .none
  -- an array gives its items to the keys by their places
  | array ws =>
    generalize hw : Written.array ws = w at h
    cases h with
    | @item _ before after x x' hitem =>
      cases hw
      have hlength : (before ++ x :: after).length = (before ++ x' :: after).length := by simp
      rw [Written.fields?, Written.fields?, hlength]
      split
      · exact .some (restate_zip hitem known before)
      · exact .none
    | reorder => cases hw
    | member => cases hw
    | add => cases hw
  | null => cases h
  | bool => cases h
  | number => cases h
  | string => cases h

/-! ### Blind readers of records -/

section
variable {β : Type} {read : Written → Option β} {fs fs' : Fields} {key : String}

theorem Fields.Restate.required (h : Fields.Restate member fs fs')
    (hread : Blind (member key) read) :
    fs'.required key read = fs.required key read := by
  rw [Fields.required, Fields.required]
  generalize hw : fs.lookup key = o, hw' : fs'.lookup key = o'
  cases hw ▸ hw' ▸ h key with
  | none => rfl
  | some hrestates => exact hread.restates hrestates

theorem Fields.Restate.withDefault {default : β} (h : Fields.Restate member fs fs')
    (hread : Blind (member key) read) :
    fs'.withDefault key default read = fs.withDefault key default read := by
  rw [Fields.withDefault, Fields.withDefault]
  generalize hw : fs.lookup key = o, hw' : fs'.lookup key = o'
  cases hw ▸ hw' ▸ h key with
  | none => rfl
  | some hrestates => exact hread.restates hrestates

theorem Fields.optional_of_ne_null {w : Written} (hw : fs.lookup key = some w) (hnull : w ≠ .null) :
    fs.optional key read = (read w).map some := by
  rw [Fields.optional, hw]
  split <;> simp_all

theorem Fields.Restate.optional (h : Fields.Restate member fs fs')
    (hread : Blind (member key) read) :
    fs'.optional key read = fs.optional key read := by
  generalize hw : fs.lookup key = o, hw' : fs'.lookup key = o'
  cases hw ▸ hw' ▸ h key with
  | none => rw [Fields.optional, Fields.optional, hw, hw']
  | @some w w' hrestates =>
    by_cases hnull : w = .null
    · have hnull' := (Layout.null_of_restates hrestates).1 hnull
      rw [Fields.optional, Fields.optional, hw, hw', hnull, hnull']
    · have hnull' := hnull ∘ (Layout.null_of_restates hrestates).2
      rw [Fields.optional_of_ne_null hw hnull, Fields.optional_of_ne_null hw' hnull',
        hread.restates hrestates]

end

/-- A record is blind where it takes from its fields nothing but what is restated in them. -/
theorem blind_record {mayAdd : List (Option String × Written) → String → Written → Prop}
    (known : List String) {ofFields : Fields → Option α}
    (hadd : ∀ ms key w, mayAdd ms key w → key ∉ known)
    (hfields : ∀ fs fs', Fields.Restate member fs fs' → ofFields fs' = ofFields fs) :
    Blind (.record mayAdd member) fun w => w.fields? known >>= ofFields := by
  intro w w' h
  show (w'.fields? known).bind ofFields = (w.fields? known).bind ofFields
  generalize hw : w.fields? known = o, hw' : w'.fields? known = o'
  cases hw ▸ hw' ▸ h.fields? hadd with
  | none => rfl
  | some hrestate => exact hfields _ _ hrestate

/-! ### Places that have to hold values

    Some members are read as values before anybody knows what they are for. -/

/-- What stands there, inside `outer` arrays and objects, is a value. -/
def Readable (outer : Nat) (w : Written) : Prop := (w.valueWithin? outer).isSome

instance (outer : Nat) (w : Written) : Decidable (Readable outer w) :=
  inferInstanceAs (Decidable (_ = true))

theorem readable_iff {outer : Nat} {w : Written} :
    Readable outer w ↔ outer + w.depth ≤ deepest ∧ w.value?.isSome := by
  rw [Readable, Written.valueWithin?]
  split
  next hdepth => exact (and_iff_right hdepth).symm
  next hdepth => exact iff_of_false (by simp) fun h => hdepth h.1

theorem itemValues?_isSome {ws : List Written} :
    (itemValues? ws).isSome ↔ ∀ w ∈ ws, w.value?.isSome := by
  induction ws with
  | nil => simp [itemValues?]
  | cons w ws ih =>
    rw [List.forall_mem_cons, ← ih, itemValues?]
    cases w.value? <;> cases itemValues? ws <;> simp

theorem memberValues?_isSome {ms : List (Option String × Written)} :
    (memberValues? ms).isSome ↔ ∀ m ∈ ms, m.1.isSome ∧ m.2.value?.isSome := by
  induction ms with
  | nil => simp [memberValues?]
  | cons m ms ih =>
    obtain ⟨key, w⟩ := m
    rw [List.forall_mem_cons, ← ih, memberValues?]
    cases key <;> cases w.value? <;> cases memberValues? ms <;> simp

theorem itemDepth_le {ws : List Written} {n : Nat} : itemDepth ws ≤ n ↔ ∀ w ∈ ws, w.depth ≤ n := by
  induction ws with
  | nil => simp [itemDepth]
  | cons w ws ih => rw [List.forall_mem_cons, ← ih, itemDepth, Nat.max_le]

theorem memberDepth_le {ms : List (Option String × Written)} {n : Nat} :
    memberDepth ms ≤ n ↔ ∀ m ∈ ms, m.2.depth ≤ n := by
  induction ms with
  | nil => simp [memberDepth]
  | cons m ms ih => rw [List.forall_mem_cons, ← ih, memberDepth, Nat.max_le]

theorem readable_array {outer : Nat} {ws : List Written} :
    Readable outer (.array ws) ↔ outer + 1 ≤ deepest ∧ ∀ w ∈ ws, Readable (outer + 1) w := by
  simp only [readable_iff, Written.depth, Written.value?, Option.isSome_map, itemValues?_isSome]
  constructor
  · rintro ⟨hdepth, hvalues⟩
    refine ⟨by omega, fun w hw => ⟨?_, hvalues w hw⟩⟩
    have hle := itemDepth_le.1 (Nat.le_refl _) w hw
    omega
  · rintro ⟨houter, hitems⟩
    have hdepth : itemDepth ws ≤ deepest - (outer + 1) := itemDepth_le.2 fun w hw => by
      have hle := (hitems w hw).1
      omega
    exact ⟨by omega, fun w hw => (hitems w hw).2⟩

theorem readable_object {outer : Nat} {ms : List (Option String × Written)} :
    Readable outer (.object ms) ↔ outer + 1 ≤ deepest ∧ ∀ m ∈ ms, m.1.isSome ∧
      Readable (outer + 1) m.2 := by
  simp only [readable_iff, Written.depth, Written.value?, Option.isSome_map, memberValues?_isSome]
  constructor
  · rintro ⟨hdepth, hvalues⟩
    refine ⟨by omega, fun m hm => ⟨(hvalues m hm).1, ?_, (hvalues m hm).2⟩⟩
    have hle := memberDepth_le.1 (Nat.le_refl _) m hm
    omega
  · rintro ⟨houter, hmembers⟩
    have hdepth : memberDepth ms ≤ deepest - (outer + 1) := memberDepth_le.2 fun m hm => by
      have hle := (hmembers m hm).2.1
      omega
    exact ⟨by omega, fun m hm => ⟨(hmembers m hm).1, (hmembers m hm).2.2⟩⟩

/-- Nothing but values may be added to a place inside `outer` arrays and objects. -/
def Layout.AddsValues : Layout → Nat → Prop
  | any, _ => True
  | list l, outer => l.AddsValues (outer + 1)
  | record mayAdd member, outer =>
    (∀ ms key w, mayAdd ms key w → Readable (outer + 1) w) ∧
      ∀ key, (member key).AddsValues (outer + 1)

/-- There, a value stays one and nothing becomes one. -/
theorem Layout.Step.readable_iff {l : Layout} {w w' : Written} (h : l.Step w w') :
    ∀ {outer : Nat}, l.AddsValues outer → (Readable outer w ↔ Readable outer w') := by
  induction h with
  | reorder hperm =>
    intro outer _
    rw [readable_object, readable_object]
    exact and_congr_right fun _ => forall_congr' fun m => imp_congr_left hperm.mem_iff
  | @item l before after w w' _ ih =>
    intro outer hl
    have hitem : Readable (outer + 1) w ↔ Readable (outer + 1) w' := ih (by
      cases l with
      | list => exact hl
      | any => trivial
      | record => trivial)
    simp only [readable_array, List.forall_mem_append, List.forall_mem_cons, hitem]
  | @member l before after key w w' _ ih =>
    intro outer hl
    have hmember : Readable (outer + 1) w ↔ Readable (outer + 1) w' := ih (by
      cases l with
      | record _ member => cases key with | none => trivial | some key => exact hl.2 key
      | any => trivial
      | list => trivial)
    simp only [readable_object, List.forall_mem_append, List.forall_mem_cons, hmember]
  | @add l ms key w hadd =>
    intro outer hl
    have hvalue : Readable (outer + 1) w := by
      cases l with
      | record => exact hl.1 ms key w hadd
      | any => exact hadd.elim
      | list => exact hadd.elim
    simp [readable_object, hvalue]

end Dialogue.Json
