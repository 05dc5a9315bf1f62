import Dialogue.Flow.Task
import Dialogue.Memory.Container
import Dialogue.Proofs.Dictionaries

/-! # The author's check and the guard

    Who writes a flow checks the parameters of a task against the ids that are available and is told
    all that are missing; the guard of a transition looks the required ids up one after the other
    and names the first that is missing. With the ids that a container reports as present the two
    agree, for plain values and facts with provenance, in order or hashed
    (`author_agrees_with_guard`): both go by what the container lacks (`isKnown_eq_false_iff`), and
    the guard names the head of the author's list. -/

namespace Dialogue

open Json Dialogue.Flow StateMachine

/-! ### What counts as nothing -/

/-- `null`, `""`, `[]` or an object without members. -/
def Json.Value.IsEmpty (v : Value) : Prop :=
  v = .null ∨ v = .string "" ∨ v = .array [] ∨ v = .object []

theorem Json.Value.isPresent_eq_false_iff {v : Value} : v.isPresent = false ↔ v.IsEmpty := by
  cases v <;> simp [Value.isPresent, Value.IsEmpty]

/-! ### In order or hashed -/

/-- Hashed entries are found as they are in order. -/
theorem Dict.getElem?_hashed {α : Type} (d : Dict α) (id : String) :
    (Std.HashMap.ofList d.entries)[id]? = d.get? id := by
  cases hget : d.get? id with
  | some a =>
    have hdistinct : d.entries.Pairwise fun e e' => (e.1 == e'.1) = false :=
      d.ascending.imp fun hlt => beq_false_of_ne fun heq => String.lt_irrefl _ (heq ▸ hlt)
    exact Std.HashMap.getElem?_ofList_of_mem (beq_self_eq_true id) hdistinct (mem_of_get? hget)
  | none =>
    refine Std.HashMap.getElem?_ofList_of_contains_eq_false ?_
    rw [List.contains_eq_mem, decide_eq_false_iff_not, List.mem_map]
    rintro ⟨e, he, rfl⟩
    cases hget.symm.trans (get?_of_mem he)

namespace Memory

namespace Container

variable {c : Container} {id : String}

theorem seen_hashedFacts (b : Bucket) :
    (hashedFacts (.ofList b.entries)).seen = (facts b).seen := by
  funext id
  simp only [seen, Bucket.facts, Dict.getElem?_hashed]

/-! ### What the container lacks -/

/-- The id has no entry, an empty value, or a fact that nobody has written. -/
def Lacks : Container → String → Prop
  | .values d, id => ∀ v, d.get? id = some v → v.IsEmpty
  | .hashedValues m, id => ∀ v, m[id]? = some v → v.IsEmpty
  | .facts b, id => ∀ f, b.get? id = some f → f.updatedAt = none ∨ f.value.IsEmpty
  | .hashedFacts m, id => ∀ f, m[id]? = some f → f.updatedAt = none ∨ f.value.IsEmpty

theorem any_isPresent_eq_false_iff {x : Option Value} :
    x.any Value.isPresent = false ↔ ∀ v, x = some v → v.IsEmpty := by
  cases x with
  | none => simp
  | some v => simp [Value.isPresent_eq_false_iff]

theorem any_written_eq_false_iff {x : Option Fact} :
    (x.bind fun f => if f.updatedAt.isSome then some f.value else none).any Value.isPresent =
        false ↔
      ∀ f, x = some f → f.updatedAt = none ∨ f.value.IsEmpty := by
  cases x with
  | none => simp
  | some f => cases hat : f.updatedAt <;> simp [hat, Value.isPresent_eq_false_iff]

/-- What a guard does not see is what the container lacks. -/
theorem isKnown_eq_false_iff : isKnown c.seen id = false ↔ c.Lacks id := by
  cases c with
  | values d => exact any_isPresent_eq_false_iff
  | hashedValues m => exact any_isPresent_eq_false_iff
  | facts b => exact any_written_eq_false_iff
  | hashedFacts m => exact any_written_eq_false_iff

instance (c : Container) (id : String) : Decidable (c.Lacks id) :=
  decidable_of_iff (isKnown c.seen id = false) isKnown_eq_false_iff

/-! ### What the container reports -/

/-- The ids with an entry. -/
def ids : Container → List String
  | .values d => d.keys
  | .hashedValues m => m.keys
  | .facts b => b.keys
  | .hashedFacts m => m.keys

/-- The ids that the container reports as present. -/
def present (c : Container) : List String := c.ids.filter (isKnown c.seen)

theorem lacks_of_not_mem (h : id ∉ c.ids) : c.Lacks id := by
  cases c with
  | values d => exact fun v hv => absurd (List.mem_map_of_mem (Dict.mem_of_get? hv)) h
  | hashedValues m =>
    exact fun v hv => absurd (Std.HashMap.mem_keys.2 (Std.HashMap.getElem?_eq_some_iff.1 hv).1) h
  | facts b => exact fun f hf => absurd (List.mem_map_of_mem (Dict.mem_of_get? hf)) h
  | hashedFacts m =>
    exact fun f hf => absurd (Std.HashMap.mem_keys.2 (Std.HashMap.getElem?_eq_some_iff.1 hf).1) h

theorem mem_present : id ∈ c.present ↔ isKnown c.seen id = true := by
  rw [present, List.mem_filter, and_iff_right_iff_imp]
  intro hknown
  have hheld : ¬ c.Lacks id := by simp [← isKnown_eq_false_iff, hknown]
  exact Decidable.byContradiction fun hmem => hheld (lacks_of_not_mem hmem)

end Container

/-! ### All that is missing, and the first of it -/

variable {facts : Facts} {available : List String} {ps : List TransitionParameter}

/-- All the required facts that are not known. -/
def unmet (facts : Facts) (required : List String) : List String :=
  required.filter fun id => !isKnown facts id

/-- The guard goes by the first of them. -/
theorem checkFacts_eq (facts : Facts) (required : List String) :
    checkFacts facts required = (unmet facts required).head?.elim (.ok ()) fun id =>
      .error (.missingParameter id) := by
  rw [unmet, List.head?_filter, checkFacts, firstMissing?]
  cases required.find? fun id => !isKnown facts id <;> rfl

/-- The author's check of what is known finds them all. -/
theorem missingIds_eq_unmet (h : ∀ id, id ∈ available ↔ isKnown facts id = true) :
    missingIds ps available = unmet facts (requiredIds ps) := by
  have hcontains : ∀ id, available.contains id = isKnown facts id := by
    intro id
    rw [List.contains_eq_mem, Bool.eq_iff_iff, decide_eq_true_eq, h]
  simp only [missingIds, unmet, requiredIds, List.filter_map, List.filter_filter, Function.comp_def,
    hcontains, Bool.and_comm]

theorem unmet_eq_lacking (c : Container) (required : List String) :
    unmet c.seen required = required.filter fun id => c.Lacks id := by
  refine List.filter_congr fun id _ => ?_
  rw [Bool.eq_iff_iff, Bool.not_eq_true', decide_eq_true_eq]
  exact Container.isKnown_eq_false_iff

/-- The author's check passes exactly when the guard does, if the ids that the container reports as
    present are available. Otherwise it lists the required ids that the container lacks, as they are
    declared, and the guard names the first of them. -/
theorem author_agrees_with_guard (ps : List TransitionParameter) (c : Container)
    (available : List String) (h : ∀ id, id ∈ available ↔ isKnown c.seen id = true) :
    (checkAvailable ps available = .ok () ↔ checkFacts c.seen (requiredIds ps) = .ok ()) ∧
      ∀ missing, checkAvailable ps available = .error missing →
        missing = (requiredIds ps).filter (fun id => c.Lacks id) ∧
          ∃ first, missing.head? = some first ∧
            checkFacts c.seen (requiredIds ps) = .error (.missingParameter first) := by
  have hmissing : missingIds ps available = (requiredIds ps).filter fun id => c.Lacks id := by
    rw [missingIds_eq_unmet h, unmet_eq_lacking]
  rw [checkFacts_eq, unmet_eq_lacking, checkAvailable, hmissing]
  cases hlacking : (requiredIds ps).filter fun id => c.Lacks id with
  | nil => simp
  | cons first rest => simp

/-- A visitor whose name is known, whose date nobody has written, and whose phone
    number is empty. -/
def visitorFacts : Bucket := Dict.ofList [("name", .new (.string "Ada") "crm" "k1" .epoch),
  ("date", { Fact.empty "k1" with value := .string "tomorrow" }),
  ("phone", .new (.string "") "crm" "k1" .epoch)]

/-- The date is asked for twice, and the mail address is optional. -/
def visitorParameters : List TransitionParameter :=
  [⟨"name", true⟩, ⟨"date", true⟩, ⟨"mail", false⟩, ⟨"phone", true⟩, ⟨"date", true⟩]

/-- The same facts, hashed. -/
def hashedVisitor : Container := .hashedFacts (.ofList visitorFacts.entries)

/-- The author hears of all three, and the guard asks for the date. -/
theorem visitor_is_asked_for_the_date :
    checkAvailable visitorParameters hashedVisitor.present = .error ["date", "phone", "date"] ∧
      checkFacts hashedVisitor.seen (requiredIds visitorParameters) =
          .error (.missingParameter "date") := by
  obtain ⟨hpasses, hmissing⟩ :=
    author_agrees_with_guard visitorParameters hashedVisitor hashedVisitor.present
    fun id => Container.mem_present
  have hlacking : (requiredIds visitorParameters).filter (fun id => hashedVisitor.Lacks id) =
      ["date", "phone", "date"] := by
    -- hashes do not compute here, so the facts are looked up in order
    rw [← unmet_eq_lacking, hashedVisitor, Container.seen_hashedFacts]
    decide
  cases hcheck : checkAvailable visitorParameters hashedVisitor.present with
  | ok _ =>
    have hguard := hpasses.1 hcheck
    rw [checkFacts_eq, unmet_eq_lacking, hlacking] at hguard
    cases hguard
  | error missing =>
    obtain ⟨rfl, first, hfirst, hguard⟩ := hmissing missing hcheck
    rw [hlacking] at hfirst ⊢
    cases hfirst
    exact ⟨rfl, hguard⟩

end Memory
end Dialogue
