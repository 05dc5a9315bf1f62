import Mathlib.Data.List.Induction
import Mathlib.Data.List.Nodup
import Dialogue.Proofs.Dictionaries
import Dialogue.StateMachine.Compile

/-! # The index of the tasks

    The index is filled while the tasks are checked. What carries the loop is that the index so far
    is that of the tasks before (`indexTasks_eq_ok`): it has a name at a position exactly when the
    task there is of that name (`get?_positions_eq_some`), so it tells whether a name is new. -/

namespace Dialogue.StateMachine

open Dialogue.Flow

/-- The position of each task by its name. -/
def positions (tasks : List Task) : Dict Nat :=
  .ofList (tasks.zipIdx.map fun p => (p.1.description, p.2))

theorem positions_concat (ts : List Task) (t : Task) :
    positions (ts ++ [t]) = (positions ts).insert t.description ts.length := by
  simp [positions, Dict.ofList, Dict.insertMany, List.zipIdx_append]

theorem nodup_concat_iff {ts : List Task} {t : Task} : ((ts ++ [t]).map (·.description)).Nodup ↔
    t.description ∉ ts.map (·.description) ∧ (ts.map (·.description)).Nodup := by
  rw [List.map_append, List.map_singleton, ← List.concat_eq_append, List.nodup_concat]

/-- A name has the position of the task of the name. -/
theorem get?_positions_eq_some {ts : List Task} (h : (ts.map (·.description)).Nodup) {name : String}
    {i : Nat} :
    (positions ts).get? name = some i ↔ ∃ t, ts[i]? = some t ∧ t.description = name := by
  induction ts using List.reverseRecOn with
  | nil => simp [positions, Dict.ofList, Dict.insertMany]
  | append_singleton ts t ih =>
    rw [nodup_concat_iff] at h
    rw [positions_concat, Dict.get?_insert]
    split
    · rename_i hname
      subst hname
      constructor
      · rintro ⟨⟩
        exact ⟨t, by simp, rfl⟩
      · rintro ⟨u, hu, hname⟩
        -- an earlier task of the name would repeat it
        rcases Nat.lt_or_ge i ts.length with hi | hi
        · rw [List.getElem?_append_left hi] at hu
          exact absurd (List.mem_map.2 ⟨u, List.mem_of_getElem? hu, hname⟩) h.1
        · have hlast : i < (ts ++ [t]).length := (List.getElem?_eq_some_iff.1 hu).1
          rw [List.length_append, List.length_singleton] at hlast
          rw [show i = ts.length by omega]
    · rename_i hname
      rw [ih h.2]
      refine exists_congr fun u => and_congr_left fun hu => ?_
      rcases Nat.lt_trichotomy i ts.length with hi | rfl | hi
      · rw [List.getElem?_append_left hi]
      · -- the last position is that of the other name
        simp only [List.getElem?_concat_length, Option.some.injEq]
        constructor
        · intro hnone
          simp at hnone
        · rintro rfl
          exact absurd hu.symm hname
      · rw [List.getElem?_eq_none (by omega), List.getElem?_eq_none (by simp; omega)]

/-- The task at the position of a name, if one of the tasks before has it. -/
theorem earlier_eq_some {tasks seen ts : List Task} (htasks : tasks = seen ++ ts)
    (hseen : (seen.map (·.description)).Nodup) {name : String} {t : Task} :
    ((positions seen).get? name).bind (tasks[·]?) = some t ↔ t ∈ seen ∧ t.description = name := by
  simp only [Option.bind_eq_some_iff, get?_positions_eq_some hseen]
  constructor
  · rintro ⟨i, ⟨u, hu, hname⟩, ht⟩
    have hi : i < seen.length := (List.getElem?_eq_some_iff.1 hu).1
    rw [htasks, List.getElem?_append_left hi, hu] at ht
    cases ht
    exact ⟨List.mem_of_getElem? hu, hname⟩
  · rintro ⟨ht, hname⟩
    obtain ⟨i, hi⟩ := List.mem_iff_getElem?.1 ht
    refine ⟨i, ⟨t, hi, hname⟩, ?_⟩
    rw [htasks, List.getElem?_append_left (List.getElem?_eq_some_iff.1 hi).1, hi]

theorem new_of_earlier_eq_none {tasks seen ts : List Task} (htasks : tasks = seen ++ ts)
    (hseen : (seen.map (·.description)).Nodup) {name : String}
    (h : ((positions seen).get? name).bind (tasks[·]?) = none) :
    name ∉ seen.map (·.description) := by
  intro hold
  obtain ⟨s, hs, hname⟩ := List.mem_map.1 hold
  have hsome := (earlier_eq_some htasks hseen).2 ⟨hs, hname⟩
  rw [h] at hsome
  cases hsome

/-- The rest of the tasks are entered when they are in order and no name is repeated. The index is
    then that of all tasks. -/
theorem indexTasks_eq_ok {tasks seen ts : List Task} {index : Dict Nat}
    (htasks : tasks = seen ++ ts) (hseen : (seen.map (·.description)).Nodup) :
    indexTasks tasks (positions seen) seen.length ts = .ok index ↔
      (∀ t ∈ ts, t.problems = []) ∧ (tasks.map (·.description)).Nodup ∧
        index = positions tasks := by
  -- the index holds the positions of the tasks seen so far
  induction ts generalizing seen with
  | nil =>
    rw [List.append_nil] at htasks
    subst htasks
    simpa [indexTasks, hseen] using eq_comm
  | cons t ts ih =>
    unfold indexTasks
    cases hfirst : ((positions seen).get? t.description).bind (tasks[·]?) with
    -- the name has a position already, so it stands twice
    | some first =>
      obtain ⟨hmem, hname⟩ := (earlier_eq_some htasks hseen).1 hfirst
      simp only [reduceCtorEq, false_iff, not_and]
      intro _ hnodup
      rw [htasks, List.map_append, List.map_cons, List.nodup_append] at hnodup
      exact absurd hname (hnodup.2.2 _ (List.mem_map_of_mem hmem) _ (by simp))
    | none =>
      dsimp only
      split
      · rename_i p ps hp
        simp [hp]
      · rename_i hp
        have hseen' := nodup_concat_iff.2 ⟨new_of_earlier_eq_none htasks hseen hfirst, hseen⟩
        have hnext : seen.length + 1 = (seen ++ [t]).length := by simp
        rw [← positions_concat, hnext, ih (by simp [htasks]) hseen', List.forall_mem_cons]
        simp only [hp, true_and]

/-- All tasks of a version are entered. -/
theorem index_eq_ok {tasks : List Task} {index : Dict Nat} :
    indexTasks tasks .empty 0 tasks = .ok index ↔
    (∀ t ∈ tasks, t.problems = []) ∧ (tasks.map (·.description)).Nodup ∧
      index = positions tasks := by
  have hall : tasks = [] ++ tasks := rfl
  exact indexTasks_eq_ok hall List.nodup_nil

end Dialogue.StateMachine
