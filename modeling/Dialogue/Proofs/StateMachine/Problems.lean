import Dialogue.Proofs.StateMachine.Compiled

/-! # Problems and errors

    Two checkers look at a version: one collects all of its problems, the other compiles it and
    stops at the first error. Both are measured against what is wrong with the version, said without
    either (`Version.Wrong`). The first finds all of that and nothing else
    (`Version.mem_problems_iff`); the second finds some of it, if more than variable ids is wrong
    (`compile_error_wrong`). So they agree (`compile_agrees_with_problems`). -/

namespace Dialogue.Flow

namespace Version

/-! ### What is wrong with a version -/

/-- The problem is there. Ids and descriptions are repeated where they stand for the second time. -/
inductive Wrong (v : Version) : Problem → Prop
  | noFirstTask : v.firstTask = none → Wrong v .noFirstTask
  | unknownFirstTask {id : String} : v.firstTask = some id → (∀ t ∈ v.tasks, t.id ≠ id) →
      Wrong v (.unknownFirstTask id)
  | repeatedVariable {before after : List Variable} {x : Variable} :
      v.declarations = before ++ x :: after →
      x.id ∈ before.map (·.id) → Wrong v (.repeatedVariable x.id)
  | inVariable {x : Variable} {p : Problem} : x ∈ v.declarations → p ∈ x.problems → Wrong v p
  | undeclaredVariable {t : Task} {q : TransitionParameter} : t ∈ v.tasks → q ∈ t.parameters →
      (∀ x ∈ v.declarations, x.id ≠ q.variableId) → Wrong v (.undeclaredVariable t.id q.variableId)
  | repeatedDescription {before after : List Task} {t : Task} : v.tasks = before ++ t :: after →
      t.description ∈ before.map (·.description) → Wrong v (.repeatedDescription t.id t.description)
  | unknownConnection {t : Task} {id : String} : t ∈ v.tasks → id ∈ t.connectedTasks →
      (∀ s ∈ v.tasks, s.id ≠ id) → Wrong v (.unknownConnection t.id id)
  | inTask {t : Task} {p : Problem} : t ∈ v.tasks → p ∈ t.problems → Wrong v p

/-! ### All problems are found -/

variable {v : Version} {p : Problem}

theorem taskById?_eq_none {id : String} : v.taskById? id = none ↔ ∀ t ∈ v.tasks, t.id ≠ id := by
  simp [taskById?]

theorem mem_firstTaskProblems : p ∈ v.firstTaskProblems ↔
    (v.firstTask = none ∧ p = .noFirstTask) ∨
      ∃ id, v.firstTask = some id ∧ (∀ t ∈ v.tasks, t.id ≠ id) ∧ p = .unknownFirstTask id := by
  unfold firstTaskProblems
  cases h : v.firstTask with
  | none => simp
  | some id => by_cases hid : v.taskById? id = none <;> simp [hid, ← taskById?_eq_none]

theorem mem_undeclaredParameters {taskId variableId : String} :
    (taskId, variableId) ∈ v.undeclaredParameters ↔
    ∃ t ∈ v.tasks, ∃ q ∈ t.parameters, (∀ x ∈ v.declarations, x.id ≠ q.variableId) ∧ t.id = taskId ∧
      q.variableId = variableId := by
  simp [undeclaredParameters, variableById?, and_assoc]

/-- A pass that remembers the keys it has seen finds what is wrong with each item by itself, and the
    items whose key is that of one before. -/
theorem mem_pass {α : Type} (key : α → String) (own : α → List Problem) (again : α → Problem)
    {pass : List String → List α → List Problem} (hnil : ∀ seen, pass seen [] = [])
    (hcons : ∀ seen x xs, pass seen (x :: xs) =
      (if seen.contains (key x) then [again x] else []) ++ own x ++ pass (key x :: seen) xs)
    {xs : List α} {seen : List String} : p ∈ pass seen xs ↔ (∃ x ∈ xs, p ∈ own x) ∨
      ∃ before x after, xs = before ++ x :: after ∧ (key x ∈ seen ∨ key x ∈ before.map key) ∧
        p = again x := by
  -- the keys that were seen grow on the way
  induction xs generalizing seen with
  | nil => simp [hnil]
  | cons x xs ih =>
    rw [hcons, List.mem_append, List.mem_append, ih]
    constructor
    · rintro ((hseen | hx) | ⟨y, hy, hp⟩ | ⟨before, y, after, rfl, hkey, rfl⟩)
      · by_cases hmem : key x ∈ seen
        · exact .inr ⟨[], x, xs, rfl, .inl hmem, by simpa [hmem] using hseen⟩
        · simp [hmem] at hseen
      · exact .inl ⟨x, .head _, hx⟩
      · exact .inl ⟨y, .tail _ hy, hp⟩
      · exact .inr
          ⟨x :: before, y, after, rfl, by simpa [or_assoc, or_comm, or_left_comm] using hkey, rfl⟩
    · rintro (⟨y, hy, hp⟩ | ⟨_ | ⟨z, before⟩, y, after, hsplit, hkey, rfl⟩)
      · rcases List.mem_cons.1 hy with rfl | hy
        · exact .inl (.inr hp)
        · exact .inr (.inl ⟨y, hy, hp⟩)
      · cases hsplit
        have hseen : key x ∈ seen := by simpa using hkey
        exact .inl (.inl (by simp [hseen]))
      · cases hsplit
        exact .inr
          (.inr ⟨before, y, after, rfl, by simpa [or_assoc, or_comm, or_left_comm] using hkey, rfl⟩)

theorem mem_variableProblems {xs : List Variable} :
    p ∈ variableProblems [] xs ↔
    (∃ x ∈ xs, p ∈ x.problems) ∨
      ∃ before x after, xs = before ++ x :: after ∧ x.id ∈ before.map (·.id) ∧
        p = .repeatedVariable x.id := by
  rw [mem_pass (·.id) Variable.problems (fun x => .repeatedVariable x.id)
    (fun _ => rfl) fun _ _ _ => rfl]
  simp only [List.not_mem_nil, false_or]

/-- What is wrong with a task among tasks with the ids, apart from its description. -/
def ownProblems (ids : List String) (t : Task) : List Problem :=
  ((t.connectedTasks.filter fun id => !ids.contains id).map fun id => .unknownConnection t.id id) ++
    t.problems

theorem mem_ownProblems {ids : List String} {t : Task} : p ∈ ownProblems ids t ↔
    (∃ id ∈ t.connectedTasks, id ∉ ids ∧ p = .unknownConnection t.id id) ∨ p ∈ t.problems := by
  rw [ownProblems, List.mem_append, List.mem_map]
  refine or_congr_left (exists_congr fun id => ?_)
  rw [List.mem_filter, and_assoc, eq_comm (b := p)]
  simp

theorem mem_taskProblems {ids : List String} {ts : List Task} : p ∈ taskProblems ids [] ts ↔
    (∃ t ∈ ts, p ∈ ownProblems ids t) ∨
      ∃ before t after, ts = before ++ t :: after ∧ t.description ∈ before.map (·.description) ∧
        p = .repeatedDescription t.id t.description := by
  rw [mem_pass (·.description) (ownProblems ids) (fun t => .repeatedDescription t.id t.description)
    (fun _ => rfl)
    fun _ _ _ => by simp only [taskProblems, ownProblems, List.append_assoc]]
  simp only [List.not_mem_nil, false_or]

/-- The problems of a version that is no draft are all that is wrong with it. -/
theorem mem_problems_iff : p ∈ v.problems ↔ v.draft = false ∧ v.Wrong p := by
  unfold problems
  cases hd : v.draft with
  | true => simp
  | false =>
    simp only [Bool.false_eq_true, if_false, List.mem_append, mem_firstTaskProblems,
      mem_variableProblems, mem_taskProblems, mem_ownProblems, true_and]
    have hundeclared :
        p ∈ (v.undeclaredParameters.map fun u => Problem.undeclaredVariable u.1 u.2) ↔
        ∃ t ∈ v.tasks, ∃ q ∈ t.parameters, (∀ x ∈ v.declarations, x.id ≠ q.variableId) ∧
          p = .undeclaredVariable t.id q.variableId := by
      rw [List.mem_map]
      constructor
      · rintro ⟨⟨taskId, variableId⟩, hu, rfl⟩
        obtain ⟨t, ht, q, hq, hno, rfl, rfl⟩ := mem_undeclaredParameters.1 hu
        exact ⟨t, ht, q, hq, hno, rfl⟩
      · rintro ⟨t, ht, q, hq, hno, rfl⟩
        exact ⟨_, mem_undeclaredParameters.2 ⟨t, ht, q, hq, hno, rfl, rfl⟩, rfl⟩
    rw [hundeclared]
    have hids (id : String) : id ∉ v.tasks.map (·.id) ↔ ∀ s ∈ v.tasks, s.id ≠ id := by simp
    simp only [hids]
    constructor
    · rintro ((((⟨h, rfl⟩ | ⟨id, h, hid, rfl⟩) | ⟨x, hx, hp⟩ | ⟨before, x, after, h, hid, rfl⟩) |
        ⟨t, ht, q, hq, hno, rfl⟩) | ⟨t, ht, ⟨id, hid, hno, rfl⟩ | hp⟩ | ⟨before, t, after, h,
        hdesc, rfl⟩)
      · exact .noFirstTask h
      · exact .unknownFirstTask h hid
      · exact .inVariable hx hp
      · exact .repeatedVariable h hid
      · exact .undeclaredVariable ht hq hno
      · exact .unknownConnection ht hid hno
      · exact .inTask ht hp
      · exact .repeatedDescription h hdesc
    · intro h
      cases h with
      | noFirstTask h => exact .inl (.inl (.inl (.inl ⟨h, rfl⟩)))
      | unknownFirstTask h hid => exact .inl (.inl (.inl (.inr ⟨_, h, hid, rfl⟩)))
      | repeatedVariable h hid => exact .inl (.inl (.inr (.inr ⟨_, _, _, h, hid, rfl⟩)))
      | inVariable hx hp => exact .inl (.inl (.inr (.inl ⟨_, hx, hp⟩)))
      | undeclaredVariable ht hq hno => exact .inl (.inr ⟨_, ht, _, hq, hno, rfl⟩)
      | repeatedDescription h hd => exact .inr (.inr ⟨_, _, _, h, hd, rfl⟩)
      | unknownConnection ht hid hno => exact .inr (.inl ⟨_, ht, .inl ⟨_, hid, hno, rfl⟩⟩)
      | inTask ht hp => exact .inr (.inl ⟨_, ht, .inr hp⟩)

end Version

theorem ne_repeatedVariable_of_mem_variable {x : Variable} {p : Problem} (h : p ∈ x.problems)
    (id : String) :
    p ≠ .repeatedVariable id := by
  rintro rfl
  simp [Variable.problems] at h

theorem ne_repeatedVariable_of_mem_task {t : Task} {p : Problem} (h : p ∈ t.problems)
    (id : String) :
    p ≠ .repeatedVariable id := by
  rintro rfl
  unfold Task.problems at h
  split at h
  · simp at h
  · cases h

/-- No other problem reads like a repeated variable id. -/
theorem message_eq_repeatedVariable {p : Problem} {id : String}
    (h : p.message = (Problem.repeatedVariable id).message) :
    ∃ id', p = .repeatedVariable id' := by
  have hlist := congrArg String.toList h
  cases p <;> simp [Problem.message, toString] at hlist ⊢

end Dialogue.Flow

namespace Dialogue.StateMachine

open Dialogue.Flow

/-! ### The error is one of the problems -/

/-- The problem that an error names. -/
def CompileError.problem? : CompileError → Option Problem
  | .draft _ => none
  | .firstTaskNotFound none => some .noFirstTask
  | .firstTaskNotFound (some id) => some (.unknownFirstTask id)
  | .danglingEdge source target => some (.unknownConnection source target)
  | .duplicateDescription description _ second => some (.repeatedDescription second description)
  | .invalidTask _ p | .invalidVariable _ p => some p
  | .undeclaredVariable task variableId => some (.undeclaredVariable task variableId)

/-- The error names something that is wrong with the version, and no repeated variable id. -/
def Names (v : Version) (e : CompileError) : Prop :=
  ∃ p, e.problem? = some p ∧ v.Wrong p ∧ ∀ id, p ≠ .repeatedVariable id

variable {v : Version} {e : CompileError}

theorem names_of_firstTask (h : firstTask v = .error e) : Names v e := by
  unfold firstTask at h
  split at h
  · cases h
  · rename_i hnone
    cases h
    cases hf : v.firstTask with
    | none => exact ⟨_, rfl, .noFirstTask hf, nofun⟩
    | some id =>
      rw [hf, Option.bind_some] at hnone
      exact ⟨_, rfl, .unknownFirstTask hf (Version.taskById?_eq_none.1 hnone), nofun⟩

theorem names_of_checkVariables {xs : List Variable} (hxs : ∀ x ∈ xs, x ∈ v.declarations)
    (h : checkVariables xs = .error e) : Names v e := by
  induction xs with
  | nil => cases h
  | cons x xs ih =>
    unfold checkVariables at h
    split at h
    · rename_i p ps hp
      cases h
      have hmem : p ∈ x.problems := by simp [hp]
      exact ⟨p, rfl, .inVariable (hxs x (by simp)) hmem, ne_repeatedVariable_of_mem_variable hmem⟩
    · exact ih (fun y hy => hxs y (by simp [hy])) h

theorem names_of_checkParameters (h : checkParameters v = .error e) : Names v e := by
  unfold checkParameters at h
  split at h
  · rename_i taskId variableId us hu
    cases h
    have hmem : (taskId, variableId) ∈ v.undeclaredParameters := by simp [hu]
    obtain ⟨t, ht, q, hq, hno, rfl, rfl⟩ := Version.mem_undeclaredParameters.1 hmem
    exact ⟨_, rfl, .undeclaredVariable ht hq hno, nofun⟩
  · cases h

/-- What stops the index: the first of the rest whose name a task before it has, or
    which has a problem. -/
theorem names_of_indexTasks {ts seen : List Task} (hv : v.tasks = seen ++ ts)
    (hseen : (seen.map (·.description)).Nodup)
    (h : indexTasks v.tasks (positions seen) seen.length ts = .error e) : Names v e := by
  -- the tasks before have names that differ, each at its position in the index
  induction ts generalizing seen with
  | nil => cases h
  | cons t ts ih =>
    unfold indexTasks at h
    split at h
    -- the name was seen before
    · rename_i first hfirst
      cases h
      have hold := List.mem_map.2 ⟨first, (earlier_eq_some hv hseen).1 hfirst⟩
      exact ⟨_, rfl, .repeatedDescription hv hold, nofun⟩
    · rename_i hnone
      split at h
      · rename_i p ps hp
        cases h
        have hmem : p ∈ t.problems := by simp [hp]
        exact ⟨p, rfl, .inTask (by simp [hv]) hmem, ne_repeatedVariable_of_mem_task hmem⟩
      · have hseen' := nodup_concat_iff.2 ⟨new_of_earlier_eq_none hv hseen hnone, hseen⟩
        have hnext : seen.length + 1 = (seen ++ [t]).length := by simp
        rw [← positions_concat, hnext] at h
        exact ih (by simp [hv]) hseen' h

theorem followEdges_eq_error {tasks : List Task} {source : String} {ids : List String}
    {es : List Edge} (h : followEdges (tasksById tasks) source es ids = .error e) :
    ∃ id ∈ ids, edgeTarget? tasks id = none ∧ e = .danglingEdge source id := by
  induction ids generalizing es with
  | nil => cases h
  | cons id ids ih =>
    unfold followEdges at h
    split at h
    · rename_i hnone
      cases h
      exact ⟨id, by simp, hnone, rfl⟩
    · obtain ⟨id', hid', hrest⟩ := ih h
      exact ⟨id', by simp [hid'], hrest⟩

theorem names_of_stateOf {t : Task} (ht : t ∈ v.tasks)
    (h : stateOf (tasksById v.tasks) t = .error e) : Names v e := by
  rcases bind_eq_error.1 h with h | ⟨_, _, h⟩
  · obtain ⟨id, hid, hnone, rfl⟩ := followEdges_eq_error h
    refine ⟨_, rfl, .unknownConnection ht hid ?_, nofun⟩
    simpa [edgeTarget?_eq] using hnone
  · cases h

/-- An error of a version that is no draft names something that is wrong with it. -/
theorem names_of_compile (hd : v.draft = false) (h : compile v = .error e) : Names v e := by
  unfold compile at h
  simp only [hd, Bool.false_eq_true, if_false] at h
  -- the checks in their order
  rcases bind_eq_error.1 h with h | ⟨first, -, h⟩
  · exact names_of_firstTask h
  rcases bind_eq_error.1 h with h | ⟨_, -, h⟩
  · exact names_of_checkVariables (fun _ => id) h
  rcases bind_eq_error.1 h with h | ⟨_, -, h⟩
  · exact names_of_checkParameters h
  rcases bind_eq_error.1 h with h | ⟨_, -, h⟩
  · have hall : v.tasks = [] ++ v.tasks := rfl
    exact names_of_indexTasks hall List.nodup_nil h
  rcases bind_eq_error.1 h with h | ⟨_, -, h⟩
  · obtain ⟨t, ht, h⟩ := mapM_eq_error h
    exact names_of_stateOf ht h
  · cases h

/-- A version that compiles repeats variable ids, or nothing is wrong with it. -/
theorem Compiled.repeatedVariable {m : Machine} {p : Problem} (h : Compiled v m) (hp : v.Wrong p) :
    ∃ id, p = .repeatedVariable id := by
  obtain ⟨first, hfirst, -⟩ := h.machine
  obtain ⟨firstId, hid, hfound⟩ := Option.bind_eq_some_iff.1 hfirst
  -- each other problem is one that a check of `compile` refuses
  cases hp with
  | noFirstTask hno => simp [hno] at hid
  | unknownFirstTask hsome hno =>
    cases hsome.symm.trans hid
    simp [Version.taskById?_eq_none.2 hno] at hfound
  | repeatedVariable _ _ => exact ⟨_, rfl⟩
  | inVariable hx hp => simp [h.declarations _ hx] at hp
  | undeclaredVariable ht hq hno =>
    have hmem := Version.mem_undeclaredParameters.2 ⟨_, ht, _, hq, hno, rfl, rfl⟩
    simp [h.parameters] at hmem
  | repeatedDescription hsplit hdesc =>
    have hnodup := h.descriptions
    rw [hsplit, List.map_append, List.map_cons, List.nodup_append] at hnodup
    exact absurd rfl (hnodup.2.2 _ hdesc _ (by simp))
  | unknownConnection ht hid hno =>
    have hsome := h.connections _ ht _ hid
    simp [edgeTarget?_eq] at hsome
    obtain ⟨s, hs, hsame⟩ := hsome
    exact absurd hsame (hno s hs)
  | inTask ht hp => simp [h.tasks _ ht] at hp

/-- Exactly the versions compile that are no drafts and have no problems but repeated variable ids.
    The error of any other version that is no draft is one of its problems. -/
theorem compile_agrees_with_problems (v : Version) :
    ((∃ m, compile v = .ok m) ↔
      v.draft = false ∧ ∀ text ∈ v.problems.map (·.message),
        ∃ id, text = (Problem.repeatedVariable id).message) ∧
    ∀ e, v.draft = false → compile v = .error e → ∃ p ∈ v.problems, e.problem? = some p := by
  have hnames {e : CompileError} (hd : v.draft = false) (he : compile v = .error e) :
      ∃ p ∈ v.problems, e.problem? = some p ∧ ∀ id, p ≠ .repeatedVariable id := by
    obtain ⟨p, hp, hwrong, hother⟩ := names_of_compile hd he
    exact ⟨p, Version.mem_problems_iff.2 ⟨hd, hwrong⟩, hp, hother⟩
  refine ⟨⟨?_, ?_⟩, ?_⟩
  -- a machine leaves only ids that are repeated
  · rintro ⟨m, hm⟩
    have hc := compile_eq_ok.1 hm
    refine ⟨hc.published, ?_⟩
    intro text htext
    obtain ⟨p, hp, rfl⟩ := List.mem_map.1 htext
    obtain ⟨id, rfl⟩ := hc.repeatedVariable (Version.mem_problems_iff.1 hp).2
    exact ⟨id, rfl⟩
  -- an error names a problem of another kind, and its text would be among them
  · rintro ⟨hd, hall⟩
    cases he : compile v with
    | ok m => exact ⟨m, rfl⟩
    | error e =>
      obtain ⟨p, hp, -, hother⟩ := hnames hd he
      obtain ⟨id, hid⟩ := hall _ (List.mem_map_of_mem hp)
      obtain ⟨id', hid'⟩ := message_eq_repeatedVariable hid
      exact absurd hid' (hother id')
  · intro e hd he
    obtain ⟨p, hp, hname, -⟩ := hnames hd he
    exact ⟨p, hp, hname⟩

/-- A task that leads nowhere. -/
def astray (prompt : String) : Version :=
  { booking ["name"] prompt with tasks := [{ welcome prompt with connectedTasks := ["t3"] }] }

/-- A variable that is declared twice is a problem, and no error. A connection to
    nowhere is both. -/
theorem booking_agrees_with_problems :
    (booking ["name", "name"] "").problems = [.repeatedVariable "name"] ∧
    (∃ m, compile (booking ["name", "name"] "") = .ok m) ∧
    compile (astray "") = .error (.danglingEdge "t1" "t3") ∧
    .unknownConnection "t1" "t3" ∈ (astray "").problems := by
  have hproblems : (booking ["name", "name"] "").problems = [.repeatedVariable "name"] := by decide
  have herror : compile (astray "") = .error (.danglingEdge "t1" "t3") := by rfl
  refine ⟨hproblems, ?_, herror, ?_⟩
  · refine (compile_agrees_with_problems _).1.2 ⟨rfl, ?_⟩
    rw [hproblems]
    simp only [List.map_cons, List.map_nil, List.mem_singleton, forall_eq]
    exact ⟨_, rfl⟩
  · obtain ⟨p, hp, hname⟩ := (compile_agrees_with_problems _).2 _ rfl herror
    cases hname
    exact hp

end Dialogue.StateMachine
