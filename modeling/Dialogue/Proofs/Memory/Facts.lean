import Mathlib.Data.List.Basic
import Mathlib.Data.List.Induction
import Dialogue.Memory.Interleaving
import Dialogue.Proofs.Conversation.Blob
import Dialogue.Proofs.Dictionaries

/-! # Facts are read back

    A fact whose value survives being written is read back from its text
    (`Fact.ofText?_textOf`), and writing to a bucket keeps it to such facts. Only the variables
    that are mentioned change (`get?_writeAll`), and a bucket that was empty holds of each the
    last value that was written (`get?_recordAll`). -/

namespace Dialogue.Memory

open Json Time

theorem readsBack_description (d : Description) : ReadsBack Description.ofWritten? d := by
  have hname := readsBack_string d.name
  have hvalue := readsBack_string d.value
  refine readsAs_record rfl rfl (by decide) ?_ ?_
  · simp only [List.forall_mem_cons, List.not_mem_nil, false_imp_iff, implies_true, and_true]
    exact ⟨hname.numbers, hvalue.numbers⟩
  · rw [required_written hname (by rfl), required_written hvalue (by rfl)]
    rfl

/-- The value stands inside the object of the fact. -/
def Fact.Survives (f : Fact) : Prop := f.value.Survives 1

theorem readsBack_fact {f : Fact} (h : f.Survives) : ReadsBack (Fact.ofWritten? 0) f := by
  have hvalue := readsBack_value h
  have hby : ∀ s ∈ f.updatedBy, ReadsBack Written.string? s ∧ (toJson s).written ≠ .null := by
    intro s _
    exact ⟨readsBack_string s, by simp [toJson, Value.written]⟩
  have hat : ∀ t ∈ f.updatedAt, ReadsBack Written.instant? t ∧ (toJson t).written ≠ .null := by
    intro t _
    exact ⟨readsBack_instant t, by simp [toJson, Value.written]⟩
  have hcontact := readsBack_string f.contactId
  have hdescriptions : ∀ ds ∈ f.descriptions, ReadsBack (Written.list? Description.ofWritten?) ds ∧
      (toJson ds).written ≠ .null := by
    intro ds _
    exact ⟨readsBack_list fun d _ => readsBack_description d, by simp [toJson, Value.written]⟩
  refine readsAs_record rfl rfl (by decide) ?_ ?_
  · simp only [List.forall_mem_cons, List.not_mem_nil, false_imp_iff, implies_true, and_true]
    exact ⟨hvalue.numbers, reads_option fun s hs => (hby s hs).1.numbers, reads_option fun t ht =>
      (hat t ht).1.numbers,
      hcontact.numbers, reads_option fun ds hds => (hdescriptions ds hds).1.numbers⟩
  · rw [withDefault_written hvalue (by rfl), optional_written hby (by rfl),
      optional_written hat (by rfl), required_written hcontact (by rfl),
      optional_written hdescriptions (by rfl)]
    rfl

/-- The text of a fact reads back as the fact. -/
theorem Fact.ofText?_textOf {f : Fact} (h : f.Survives) : Fact.ofText? (textOf f) = some f :=
  (readsBack_fact h).ofText

/-! ### Buckets -/

namespace Bucket

/-- All facts in the bucket survive being written. -/
def Survives (b : Bucket) : Prop := ∀ id f, b.get? id = some f → f.Survives

theorem survives_empty : Survives .empty := by rintro id f ⟨⟩

variable {b : Bucket} {contactId : String} {writer : Writer} {now : Instant}

theorem survives_write (h : b.Survives) {u : Update} (hu : u.value.Survives 1) :
    (b.write contactId writer now u).Survives := by
  intro id f hf
  rw [Bucket.write, Dict.get?_insert] at hf
  split at hf
  · cases hf
    exact hu
  · exact h id f hf

theorem survives_writeAll {us : List Update} (h : b.Survives) (hus : ∀ u ∈ us, u.value.Survives 1) :
    (b.writeAll contactId writer now us).Survives := by
  induction us generalizing b with
  | nil => exact h
  | cons u us ih =>
    have hfirst : u.value.Survives 1 := hus u List.mem_cons_self
    exact ih (survives_write h hfirst) fun v hv => hus v (List.mem_cons_of_mem u hv)

/-- Facts that are not mentioned stay as they are. -/
theorem get?_writeAll {us : List Update} {id : String} (h : id ∉ us.map (·.variableId)) :
    (b.writeAll contactId writer now us).get? id = b.get? id := by
  induction us generalizing b with
  | nil => rfl
  | cons u us ih =>
    rw [List.map_cons, List.mem_cons, not_or] at h
    have hstep : b.writeAll contactId writer now (u :: us) =
      (b.write contactId writer now u).writeAll contactId writer now us := rfl
    rw [hstep, ih h.2, Bucket.write, Dict.get?_insert, if_neg h.1]

/-- There is a fact for every variable that is mentioned. -/
theorem isSome_writeAll {us : List Update} {id : String} (h : id ∈ us.map (·.variableId)) :
    ((b.writeAll contactId writer now us).get? id).isSome := by
  induction us generalizing b with
  | nil => cases h
  | cons u us ih =>
    have hstep : b.writeAll contactId writer now (u :: us) =
      (b.write contactId writer now u).writeAll contactId writer now us := rfl
    rw [hstep]
    by_cases hlater : id ∈ us.map (·.variableId)
    · exact ih hlater
    · have hid : id = u.variableId := by
        rw [List.map_cons, List.mem_cons] at h
        exact h.resolve_right hlater
      rw [get?_writeAll hlater, Bucket.write, Dict.get?_insert, if_pos hid]
      rfl

end Bucket

/-- Of both, the fact of the tools, if they have one. -/
theorem get?_merge (tools extraction : Bucket) (id : String) :
    (merge tools extraction).get? id = (tools.get? id).or (extraction.get? id) :=
  Dict.get?_overlay extraction tools id

/-! ### Who wrote last -/

namespace Bucket

/-- Writes an update as part of its write. -/
def record (b : Bucket) (e : Write × Update) : Bucket :=
  b.write e.1.contactId e.1.writer e.1.startedAt e.2

/-- The bucket after the updates, each with the write it belongs to. -/
def recordAll (b : Bucket) (es : List (Write × Update)) : Bucket := es.foldl record b

end Bucket

/-- The last value that the updates give the variable, with its provenance and the last
    descriptions. -/
def lastOf (es : List (Write × Update)) (id : String) : Option Fact :=
  let own := es.filter fun e => e.2.variableId = id
  own.getLast?.map fun e =>
    { Fact.new e.2.value e.1.writer.name e.1.contactId e.1.startedAt with
      descriptions := own.reverse.findSome? (·.2.descriptions) }

theorem lastOf_concat (es : List (Write × Update)) (e : Write × Update) (id : String) :
    lastOf (es ++ [e]) id =
    if id = e.2.variableId then
      some (({ (lastOf es id).getD (.empty e.1.contactId) with
          contactId := e.1.contactId } : Fact).update
        e.2.value e.1.writer.name e.2.descriptions e.1.startedAt)
    else lastOf es id := by
  -- an update of another variable is passed over
  by_cases hid : id = e.2.variableId
  · have hfilter : (es ++ [e]).filter (fun e => e.2.variableId = id) =
        es.filter (fun e => e.2.variableId = id) ++ [e] := by
      simp [List.filter_append, hid]
    simp only [lastOf, hfilter, if_pos hid]
    rcases List.eq_nil_or_concat (es.filter fun e => e.2.variableId = id) with hnil | ⟨own,
      e', hown⟩
    · simp [hnil, Fact.new, Fact.update, Fact.empty]
    · rw [List.concat_eq_append] at hown
      cases hu : e.2.descriptions <;> simp [hown, hu, Fact.new, Fact.update]
  · simp [lastOf, List.filter_append, hid, Ne.symm hid]

/-- An empty bucket gets the last value of each variable. -/
theorem get?_recordAll (es : List (Write × Update)) (id : String) :
    (Bucket.recordAll .empty es).get? id = lastOf es id := by
  induction es using List.reverseRecOn with
  | nil => rfl
  | append_singleton es e ih =>
    have hstep : Bucket.recordAll .empty (es ++ [e]) = (Bucket.recordAll .empty es).record e := by
      simp [Bucket.recordAll, List.foldl_append]
    rw [hstep, Bucket.record, Bucket.write, Dict.get?_insert, lastOf_concat]
    split
    · rename_i hid
      rw [← hid, ih]
    · exact ih

end Dialogue.Memory
