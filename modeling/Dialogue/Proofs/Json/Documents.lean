import Dialogue.Json.Record
import Dialogue.Proofs.Json.Printed

/-! # Documents are read back

    A reader reads a value as another when it finds that one in the document written of the value,
    all numbers of which can be read (`ReadsAs`), and reads it back when it finds the value itself
    (`ReadsBack`). Then it finds it in the text of the document as well (`ReadsAs.ofText`). Lists,
    optional values and records are read as their parts are. -/

namespace Dialogue.Json

/-- The document of `a` has readable numbers only, and is read as `b`. -/
structure ReadsAs {α β : Type} [ToJson α] (read : Written → Option β) (a : α) (b : β) : Prop where
  numbers : (toJson a).Reads
  reads : read (toJson a).written = some b

/-- The document of `a` is read as `a`. -/
abbrev ReadsBack {α : Type} [ToJson α] (read : Written → Option α) (a : α) : Prop :=
  ReadsAs read a a

theorem ReadsAs.ofText {α β : Type} [ToJson α] {read : Written → Option β} {a : α} {b : β}
    (h : ReadsAs read a b) :
    Written.ofText? (textOf a) >>= read = some b := by
  rw [textOf, Written.ofText?_text h.numbers]
  exact h.reads

/-! ### Plain data -/

theorem readsBack_string (s : String) : ReadsBack Written.string? s := ⟨trivial, rfl⟩

theorem readsBack_uint64 (n : UInt64) : ReadsBack Written.uint64? n := by
  have hn : n.toNat < UInt64.size := n.toNat_lt_size
  have hlow : -((UInt64.size / 2 : Nat) : Int) ≤ (n.toNat : Int) := by omega
  refine ⟨reads_int hlow (by omega), ?_⟩
  simp [toJson, Value.written, Written.uint64?, Written.natBelow?, hn]

theorem readsAs_list {α β : Type} [ToJson α] {read : Written → Option β} {f : α → β} {as : List α}
    (h : ∀ a ∈ as, ReadsAs read a (f a)) : ReadsAs (Written.list? read) as (as.map f) := by
  constructor
  · refine (itemsRead_iff _).2 ?_
    intro v hv
    obtain ⟨a, ha, rfl⟩ := List.mem_map.1 hv
    exact (h a ha).numbers
  · simp only [toJson, Value.written, Written.list?]
    induction as with
    | nil => rfl
    | cons a as ih =>
      have hlater := ih fun b hb => h b (List.mem_cons_of_mem _ hb)
      have hfirst := (h a List.mem_cons_self).reads
      simp [itemsWritten, List.mapM_cons, hfirst, hlater]

theorem readsBack_list {α : Type} [ToJson α] {read : Written → Option α} {as : List α}
    (h : ∀ a ∈ as, ReadsBack read a) : ReadsBack (Written.list? read) as := by
  simpa using readsAs_list (f := id) h

theorem reads_option {α : Type} [ToJson α] {o : Option α} (h : ∀ a ∈ o, (toJson a).Reads) :
    (toJson o).Reads := by
  cases o with
  | none => trivial
  | some a => exact h a rfl

/-! ### Values

    A value is read back from what is written of it with its members in order (`value?_written`). -/

mutual

theorem value?_written : ∀ v : Value, v.written.value? = some v.sorted
  | .null => rfl
  | .bool _ => rfl
  | .number _ => rfl
  | .string _ => rfl
  | .array vs => by rw [Value.written, Written.value?, itemValues?_written vs, Value.sorted]; rfl
  | .object ms => by rw [Value.written, Written.value?, memberValues?_written ms, Value.sorted]; rfl

theorem itemValues?_written : ∀ vs :
    List Value, itemValues? (itemsWritten vs) = some (sortedItems vs)
  | [] => rfl
  | v :: vs => by
    rw [itemsWritten, itemValues?, value?_written v, itemValues?_written vs, sortedItems]
    rfl

theorem memberValues?_written : ∀ ms : List (String × Value),
    memberValues? (membersWritten ms) = some (sortedMembers ms)
  | [] => rfl
  | (k, v) :: ms => by
    rw [membersWritten, memberValues?, value?_written v, memberValues?_written ms, sortedMembers]
    rfl

end

/-- The value is read back from a document in which it stands inside `outer` arrays and objects: its
    numbers can be read, it is not nested too deep, and its members are in order. -/
structure Value.Survives (outer : Nat) (v : Value) : Prop where
  numbers : v.Reads
  depth : outer + v.written.depth ≤ deepest
  sorted : v.sorted = v

theorem readsBack_value {outer : Nat} {v : Value} (h : v.Survives outer) :
    ReadsBack (Written.valueWithin? outer) v := by
  refine ⟨h.numbers, ?_⟩
  rw [show (toJson v).written = v.written from rfl, Written.valueWithin?, if_pos h.depth,
    value?_written, h.sorted]

/-! ### Records -/

theorem membersRead_iff (ms : List (String × Value)) : MembersRead ms ↔ ∀ m ∈ ms, m.2.Reads := by
  induction ms with
  | nil => simp [MembersRead]
  | cons m ms ih => simp [MembersRead, ih]

theorem members?_written (ms : List (String × Value)) :
    (membersWritten ms).mapM (fun m => m.1.map fun k => (k, m.2)) =
        some (ms.map fun m => (m.1, m.2.written)) := by
  induction ms with
  | nil => rfl
  | cons m ms ih => simp [membersWritten, List.mapM_cons, ih]

theorem members?_object (ms : List (String × Value)) :
    (Value.object ms).written.members? = some (ms.map fun m => (m.1, m.2.written)) := by
  simp [Value.written, Written.members?, members?_written]

/-- Of the members of a record the fields are those with known keys, each of which stands once. -/
theorem pick?_append {known : List String} {own others : List (String × Value)}
    (hkeys : (own.map (·.1)).Sublist known) (hnodup : known.Nodup)
    (hothers : ∀ m ∈ others, m.1 ∉ known) :
    Fields.pick? known ((own ++ others).map fun m => (m.1, m.2.written)) =
        some (own.map fun m => (m.1, m.2.written)) := by
  -- the keys of the others are not known, so they are passed over
  have hmine :
      ((own ++ others).map fun m => (m.1, m.2.written)).filter (fun m => known.contains m.1) =
      own.map fun m => (m.1, m.2.written) := by
    rw [List.map_append, List.filter_append, List.filter_eq_self.2, List.filter_eq_nil_iff.2,
      List.append_nil]
    · intro m hm
      obtain ⟨x, hx, rfl⟩ := List.mem_map.1 hm
      simpa using hothers x hx
    · intro m hm
      obtain ⟨x, hx, rfl⟩ := List.mem_map.1 hm
      simpa using hkeys.subset (List.mem_map_of_mem hx)
  rw [Fields.pick?, hmine, List.map_map]
  exact if_pos (hnodup.sublist hkeys)

/-- A record that is written with some of its fields, in order, has these. -/
theorem fields?_written {known : List String} {ms : List (String × Value)}
    (hkeys : (ms.map (·.1)).Sublist known) (hnodup : known.Nodup) :
    (Value.object ms).written.fields? known = some (ms.map fun m => (m.1, m.2.written)) := by
  have hpick := pick?_append hkeys hnodup (List.forall_mem_nil _)
  rw [List.append_nil] at hpick
  rw [Written.fields?]
  · rw [members?_object]
    exact hpick
  · simp [Value.written]

variable {α β : Type} [ToJson α]

/-- A record that may leave fields out is read as what is found in those that were written. -/
theorem readsAs_sparse {a : α} {b : β} {known : List String} {ms : List (String × Value)}
    {ofFields : Fields → Option β} (ha : toJson a = .object ms)
    (hkeys : (ms.map (·.1)).Sublist known) (hnodup : known.Nodup) (hnumbers : ∀ m ∈ ms, m.2.Reads)
    (hfields : ofFields (ms.map fun m => (m.1, m.2.written)) = some b) :
    ReadsAs (fun w => w.fields? known >>= ofFields) a b := by
  constructor
  · rw [ha]
    exact (membersRead_iff ms).2 hnumbers
  · rw [ha, fields?_written hkeys hnodup]
    exact hfields

/-- A record is read as what is found in the fields that were written. -/
theorem readsAs_record {a : α} {b : β} {known : List String} {ms : List (String × Value)}
    {ofFields : Fields → Option β} (ha : toJson a = .object ms) (hkeys : ms.map (·.1) = known)
    (hnodup : known.Nodup) (hnumbers : ∀ m ∈ ms, m.2.Reads)
    (hfields : ofFields (ms.map fun m => (m.1, m.2.written)) = some b) :
    ReadsAs (fun w => w.fields? known >>= ofFields) a b :=
  readsAs_sparse ha (hkeys ▸ .refl _) hnodup hnumbers hfields

variable {read : Written → Option β} {back : Written → Option α} {fs : Fields} {key : String}
    {a : α} {b : β}

theorem required_written (h : ReadsAs read a b) (hkey : fs.lookup key = some (toJson a).written) :
    fs.required key read = some b := by
  rw [Fields.required, hkey]
  exact h.reads

theorem withDefault_written {d : β} (h : ReadsAs read a b)
    (hkey : fs.lookup key = some (toJson a).written) :
    fs.withDefault key d read = some b := by
  rw [Fields.withDefault, hkey]
  exact h.reads

/-- An optional field is told from a missing one by what is written in it. -/
theorem optional_readAs {o : Option α} {f : α → β}
    (h : ∀ a ∈ o, ReadsAs read a (f a) ∧ (toJson a).written ≠ .null)
    (hkey : fs.lookup key = some (toJson o).written) : fs.optional key read = some (o.map f) := by
  rw [Fields.optional, hkey]
  cases o with
  | none => rfl
  | some a =>
    obtain ⟨hread, hnull⟩ := h a rfl
    have hsome : (toJson (some a)).written = (toJson a).written := rfl
    rw [hsome]
    split
    · simp_all
    · simp_all
    · rename_i heq
      cases Option.some.inj heq
      rw [hread.reads]
      rfl

theorem optional_written {o : Option α} (h : ∀ a ∈ o, ReadsBack back a ∧ (toJson a).written ≠ .null)
    (hkey : fs.lookup key = some (toJson o).written) : fs.optional key back = some o := by
  simpa using optional_readAs (f := id) h hkey

/-- An optional field that is left out when there is nothing to say. -/
theorem optional_memberIfSome {o : Option α}
    (h : ∀ a ∈ o, ReadsBack back a ∧ (toJson a).written ≠ .null)
    (hkey : fs.lookup key = o.map fun a => (toJson a).written) : fs.optional key back = some o := by
  cases o with
  | none => rw [Fields.optional, hkey]; rfl
  | some a => exact optional_written h hkey

theorem keys_memberIfSome (key : String) (o : Option α) :
    ((memberIfSome key o).map (·.1)).Sublist [key] := by
  cases o with
  | none => exact List.nil_sublist _
  | some a => exact .refl _

theorem reads_memberIfSome {key : String} {o : Option α} (h : ∀ a ∈ o, (toJson a).Reads) :
    ∀ m ∈ memberIfSome key o, m.2.Reads := by
  intro m hm
  obtain ⟨a, ha, rfl⟩ := Option.map_eq_some_iff.1 (Option.mem_toList.1 hm)
  exact h a ha

end Dialogue.Json
