import Dialogue.Proofs.Memory.LastWrites

/-! # What a language model is told of a fact

    The text of a fact and its rows in the table of a bucket are made of its value and of its
    descriptions alone. The value is that of the last write to the variable; the descriptions are
    those of the last write that gave any, for a write without descriptions keeps them
    (`get?_bucketAfter`). So histories that end in the same write are told alike where that write
    gives descriptions, or else where the same were given last before it (`told_alike`); the
    descriptions of a value that has been overwritten are told until a later write gives others
    (`told_of_an_overwritten_value`). -/

namespace Dialogue.Memory

open Json Time

/-! ### The text of a fact -/

/-- All of a fact that its text is made of. -/
def Fact.told (f : Fact) : Value × Option (List Description) := (f.value, f.descriptions)

theorem Fact.summary_congr {f g : Fact} (h : f.told = g.told) : f.summary = g.summary := by
  obtain ⟨hvalue, hdescriptions⟩ := Prod.mk.inj h
  rw [summary, summary, hvalue, hdescriptions]

/-- The rows of a fact in the table; without a value it has none. -/
def Fact.shown (id : String) (f : Fact) : List String := if f.hasValue then f.rows id else []

theorem Fact.shown_congr {f g : Fact} (h : f.told = g.told) (id : String) :
    f.shown id = g.shown id := by
  obtain ⟨hvalue, hdescriptions⟩ := Prod.mk.inj h
  rw [shown, shown, hasValue, hasValue, rows, rows, hvalue, hdescriptions]

/-- The rows of the variable in the table. -/
def Bucket.rowsOf (b : Bucket) (id : String) : List String := ((b.get? id).map (·.shown id)).getD []

/-- What depends on the told part of a fact alone is the same where that is. -/
theorem map_congr_of_told {α : Type} {o o' : Option Fact} (h : o.map Fact.told = o'.map Fact.told)
    {g : Fact → α} (hg : ∀ f f', f.told = f'.told → g f = g f') : o.map g = o'.map g := by
  cases o with
  | none =>
    cases o' with
    | none => rfl
    | some f' => cases h
  | some f =>
    cases o' with
    | none => cases h
    | some f' => exact congrArg some (hg f f' (Option.some.inj h))

/-- Below its head, the table consists of the rows of the variables. -/
theorem table_eq_rowsOf (b : Bucket) :
    table b = tableHead ++ "".intercalate (b.keys.flatMap b.rowsOf) := by
  have hrows (es : List (String × Fact)) (hes : ∀ e ∈ es, b.get? e.1 = some e.2) :
      (es.filter fun e => e.2.hasValue).flatMap (fun e => e.2.rows e.1) =
          (es.map (·.1)).flatMap b.rowsOf := by
    induction es with
    | nil => rfl
    | cons e es ih =>
      rw [List.forall_mem_cons] at hes
      rw [List.map_cons, List.flatMap_cons, ← ih hes.2, Bucket.rowsOf, hes.1]
      cases hvalue : e.2.hasValue <;> simp [hvalue, Fact.shown]
  rw [table, hrows b.entries fun e he => Dict.get?_of_mem he]
  rfl

/-! ### What a history leaves of a variable -/

/-- The writes to the variable, in order. -/
def writesOf (es : List (Write × Update)) (id : String) : List (Write × Update) :=
  es.filter fun e => e.2.variableId = id

/-- What was written to the variable last. -/
def lastUpdate? (es : List (Write × Update)) (id : String) : Option Update :=
  (writesOf es id).getLast?.map (·.2)

/-- The descriptions that were given last. -/
def lastDescriptions? (es : List (Write × Update)) (id : String) : Option (List Description) :=
  (writesOf es id).reverse.findSome? (·.2.descriptions)

/-- Both histories end in the same write to the variable; where it gives no descriptions, the same
    were given last before it, if any. -/
structure EndAlike (es es' : List (Write × Update)) (id : String) : Prop where
  last : lastUpdate? es id = lastUpdate? es' id
  given : (∀ u ∈ lastUpdate? es id, u.descriptions = none) →
      lastDescriptions? es id = lastDescriptions? es' id

variable {source : Source} {ws ws' : List Write} {es es' : List (Write × Update)} {id : String}

/-- Descriptions of the last write are those given last. -/
theorem lastDescriptions?_of_last {u : Update} {ds : List Description}
    (hu : lastUpdate? es id = some u) (hds : u.descriptions = some ds) :
    lastDescriptions? es id = some ds := by
  obtain ⟨e, he, rfl⟩ := Option.map_eq_some_iff.1 hu
  obtain ⟨earlier, hearlier⟩ := List.getLast?_eq_some_iff.1 he
  rw [lastDescriptions?, hearlier, List.reverse_append, List.reverse_singleton,
    List.singleton_append, List.findSome?_cons, hds]

theorem EndAlike.descriptions (h : EndAlike es es' id) :
    lastDescriptions? es id = lastDescriptions? es' id := by
  by_cases hnone : ∀ u ∈ lastUpdate? es id, u.descriptions = none
  · exact h.given hnone
  · obtain ⟨u, hu, hsome⟩ : ∃ u, lastUpdate? es id = some u ∧ u.descriptions ≠ none := by
      simpa using hnone
    obtain ⟨ds, hds⟩ := Option.ne_none_iff_exists'.1 hsome
    rw [lastDescriptions?_of_last hu hds, lastDescriptions?_of_last (h.last ▸ hu) hds]

/-- The fact has the value written last and the descriptions given last. -/
theorem get?_bucketAfter (source : Source) (ws : List Write) (id : String) :
    ((bucketAfter source ws).get? id).map Fact.told =
      (lastUpdate? (updatesTo source ws) id).map fun u =>
        (u.value, lastDescriptions? (updatesTo source ws) id) := by
  rw [bucketAfter, get?_recordAll, lastOf, lastUpdate?, Option.map_map, Option.map_map]
  rfl

/-- What is told of a fact are the descriptions of one of the writes, and no write
    since gave any. -/
theorem told_of_an_overwritten_value {f : Fact} {ds : List Description}
    (hf : (bucketAfter source ws).get? id = some f) (hds : f.descriptions = some ds) :
    ∃ earlier e later, writesOf (updatesTo source ws) id = earlier ++ e :: later ∧
      e.2.descriptions = some ds ∧ ∀ e' ∈ later, e'.2.descriptions = none := by
  have hgiven := get?_bucketAfter source ws id
  rw [hf, Option.map_some, Fact.told, hds, eq_comm, Option.map_eq_some_iff] at hgiven
  obtain ⟨u, -, hu⟩ := hgiven
  obtain ⟨later, e, earlier, hsplit, hgave, hlater⟩ :=
    List.findSome?_eq_some_iff.1 (congrArg Prod.snd hu)
  refine ⟨earlier.reverse, e, later.reverse, ?_, hgave, ?_⟩
  · rw [← List.reverse_reverse (writesOf _ _), hsplit]
    simp
  · intro e' he'
    exact hlater e' (List.mem_reverse.1 he')

/-- Two histories of writes to a variable that end alike leave the same text of it and the same rows
    in any table that shows what they left. The rows make up the table. Descriptions of a value that
    has been overwritten are shown only where no write since has given any. -/
theorem told_alike (halike : EndAlike (updatesTo source ws) (updatesTo source ws') id)
    {b b' : Bucket} (hb : b.get? id = (bucketAfter source ws).get? id)
    (hb' : b'.get? id = (bucketAfter source ws').get? id) :
    (b.get? id).map Fact.summary = (b'.get? id).map Fact.summary ∧ b.rowsOf id = b'.rowsOf id ∧
      table b = tableHead ++ "".intercalate (b.keys.flatMap b.rowsOf) ∧
      ∀ f ds, b.get? id = some f → f.descriptions = some ds →
        ∃ earlier e later, writesOf (updatesTo source ws) id = earlier ++ e :: later ∧
          e.2.descriptions = some ds ∧ ∀ e' ∈ later, e'.2.descriptions = none := by
  have hsame : (b.get? id).map Fact.told = (b'.get? id).map Fact.told := by
    rw [hb, hb', get?_bucketAfter, get?_bucketAfter, halike.descriptions, halike.last]
  refine ⟨map_congr_of_told hsame fun _ _ => Fact.summary_congr, ?_, table_eq_rowsOf b, ?_⟩
  · exact congrArg (·.getD []) (map_congr_of_told hsame fun _ _ h => Fact.shown_congr h id)
  · intro f ds hf
    exact told_of_an_overwritten_value (hb ▸ hf)

/-- Ada, as she is described. -/
def ada : Write where
  startedAt := ⟨310, 0, by decide⟩
  contactId := "k1"
  updates :=
    [{ variableId := "name", value := .string "Ada", descriptions := some [⟨"Name", "Ada"⟩] }]
  writer := .tool "crm"

/-- Grace, with descriptions or without. -/
def grace (descriptions : Option (List Description)) : Write where
  startedAt := ⟨311, 0, by decide⟩
  contactId := "k1"
  updates := [{ variableId := "name", value := .string "Grace", descriptions }]
  writer := .tool "crm"

/-- Grace with a description of its own. -/
def graceDescribed : Write := grace (some [⟨"Name", "Grace"⟩])

/-- Grace is described too, so Ada is not told any more. -/
theorem told_as_described :
    EndAlike (updatesTo .tools [ada, graceDescribed]) (updatesTo .tools [graceDescribed]) "name" ∧
    ((bucketAfter .tools [ada, graceDescribed]).get? "name").map Fact.summary =
        some "Name: Grace" := by
  have halike : EndAlike (updatesTo .tools [ada, graceDescribed])
      (updatesTo .tools [graceDescribed]) "name" :=
    ⟨rfl, fun hnone => by cases hnone _ rfl⟩
  exact ⟨halike, (told_alike halike rfl rfl).1.trans (by decide +kernel)⟩

/-- Both histories end with Grace, who is not described: after the first, Ada is told instead. -/
theorem told_after_it_was_overwritten :
    lastUpdate? (updatesTo .tools [ada, grace none]) "name" = lastUpdate?
        (updatesTo .tools [grace none]) "name" ∧
    ((bucketAfter .tools [ada, grace none]).get? "name").map Fact.summary = some "Name: Ada" ∧
    ((bucketAfter .tools [grace none]).get? "name").map Fact.summary = some "Grace" ∧
    table (bucketAfter .tools [ada, grace none]) = tableHead ++ "|name|Name|Ada|\n" ∧
    table (bucketAfter .tools [grace none]) = tableHead ++ "|name||Grace|\n" :=
  ⟨rfl, by decide +kernel⟩

end Dialogue.Memory
