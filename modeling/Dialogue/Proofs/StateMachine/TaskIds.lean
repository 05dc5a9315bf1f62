import Mathlib.Data.List.Basic
import Mathlib.Data.List.Induction
import Dialogue.Proofs.StateMachine.Compiled

/-! # Task ids

    Nothing makes the ids of tasks distinct. The look-ups of a version read an id as the first task
    declared with it, edges as the last one. Compiled edges and the look-ups of the version agree
    exactly when no id that the version refers to is that of two tasks, and tasks that share an id
    refer to the same ids in the same order (`resolvesAlike_iff`). -/

namespace Dialogue.Flow.Version

/-- The version names the id as that of its first task or of a connected one. -/
def RefersTo (v : Version) (id : String) : Prop :=
  v.firstTask = some id ∨ ∃ t ∈ v.tasks, id ∈ t.connectedTasks

/-- The first and the last task with the id are one. -/
def Unambiguous (v : Version) (id : String) : Prop :=
  ∀ a ∈ v.tasks, ∀ b ∈ v.tasks, a.id = id → b.id = id → a = b

/-- Each id that is named is that of one task, and tasks that share an id are connected alike. -/
structure ClearIds (v : Version) : Prop where
  named : ∀ id, v.RefersTo id → v.Unambiguous id
  shared : ∀ a ∈ v.tasks, ∀ b ∈ v.tasks, a.id = b.id →
      a.connectedTasks.eraseDups = b.connectedTasks.eraseDups

theorem exists_taskById? {v : Version} {t : Task} (ht : t ∈ v.tasks) :
    ∃ s ∈ v.tasks, v.taskById? t.id = some s ∧ s.id = t.id := by
  have hsome : (v.taskById? t.id).isSome := by
    rw [taskById?, List.find?_isSome]
    exact ⟨t, ht, by simp⟩
  obtain ⟨s, hs⟩ := Option.isSome_iff_exists.1 hsome
  exact ⟨s, List.mem_of_find?_eq_some hs, hs, by simpa using List.find?_some hs⟩

theorem ClearIds.of_nodup {v : Version} (h : (v.tasks.map (·.id)).Nodup) : v.ClearIds where
  named _ _ _ ha _ hb hida hidb := List.inj_on_of_nodup_map h ha hb (hida.trans hidb.symm)
  shared _ ha _ hb hid := by rw [List.inj_on_of_nodup_map h ha hb hid]

end Dialogue.Flow.Version

namespace Dialogue.StateMachine

open Dialogue.Flow

/-! ### Lists without repeats -/

theorem eraseDups_concat (l : List String) (x : String) :
    (l ++ [x]).eraseDups = if x ∈ l then l.eraseDups else l.eraseDups ++ [x] := by
  rw [List.eraseDups_append]
  by_cases hx : x ∈ l <;> simp [hx, List.removeAll, List.eraseDups_cons]

/-- Repeats are those of the ids, if the reading `f` is undone by `g`. -/
theorem eraseDups_map {f g : String → String} {l : List String} (hf : ∀ x ∈ l, g (f x) = x) :
    (l.map f).eraseDups = l.eraseDups.map f := by
  induction l using List.reverseRecOn with
  | nil => rfl
  | append_singleton l x ih =>
    have hx : f x ∈ l.map f ↔ x ∈ l := by
      constructor
      · intro h
        obtain ⟨y, hy, hxy⟩ := List.mem_map.1 h
        rwa [← hf x (by simp), ← hxy, hf y (by simp [hy])]
      · exact List.mem_map_of_mem
    rw [List.map_append, List.map_singleton, eraseDups_concat, eraseDups_concat,
      ih fun y hy => hf y (by simp [hy])]
    simp only [hx]
    split
    · rfl
    · rw [List.map_append, List.map_singleton]

theorem map_eraseDups_map {f g : String → String} {l : List String} (hf : ∀ x ∈ l, g (f x) = x) :
    (l.map f).eraseDups.map g = l.eraseDups := by
  have hundone : l.eraseDups.map (g ∘ f) = l.eraseDups.map id :=
    List.map_congr_left fun x hx => hf x (List.mem_eraseDups.1 hx)
  rw [eraseDups_map hf, List.map_map, hundone, List.map_id]

/-- Two readings of ids, both undone by `g`, read two lists alike exactly when the lists are the
    same up to repeats and the readings agree on them. -/
theorem eraseDups_map_eq_iff {f f' g : String → String} {l l' : List String}
    (hf : ∀ x ∈ l, g (f x) = x) (hf' : ∀ x ∈ l', g (f' x) = x) :
    (l.map f).eraseDups = (l'.map f').eraseDups ↔ l.eraseDups = l'.eraseDups ∧
      ∀ x ∈ l, f x = f' x := by
  constructor
  · intro h
    refine ⟨by rw [← map_eraseDups_map hf, h, map_eraseDups_map hf'], ?_⟩
    intro x hx
    have hmem : f x ∈ (l'.map f').eraseDups := by
      rw [← h, List.mem_eraseDups]
      exact List.mem_map_of_mem hx
    obtain ⟨y, hy, hxy⟩ := List.mem_map.1 (List.mem_eraseDups.1 hmem)
    have hyx : y = x := by rw [← hf' y hy, hxy, hf x hx]
    rw [← hxy, hyx]
  · rintro ⟨hsame, hagree⟩
    rw [eraseDups_map hf, eraseDups_map hf', ← hsame]
    exact List.map_congr_left fun x hx => hagree x (List.mem_eraseDups.1 hx)

theorem eq_of_head?_eq_getLast? {α : Type} {l : List α} (hl : l.Nodup) (h : l.head? = l.getLast?)
    {a b : α} (ha : a ∈ l) (hb : b ∈ l) : a = b := by
  match l with
  | [] => cases ha
  | [x] => rw [List.mem_singleton.1 ha, List.mem_singleton.1 hb]
  | x :: y :: xs =>
    have hlast : x ∈ y :: xs := by
      rw [List.head?_cons, List.getLast?_cons_cons] at h
      exact List.mem_of_getLast? h.symm
    exact absurd hlast (List.nodup_cons.1 hl).1

/-! ### Edges and look-ups -/

theorem targets_edgesTo (ts : List Task) :
    (edgesTo ts).map (·.target) = (ts.map (·.description)).eraseDups := by
  induction ts using List.reverseRecOn with
  | nil => rfl
  | append_singleton ts t ih =>
    have hany : (edgesTo ts).any (·.event = t.description) = true ↔
        t.description ∈ ts.map (·.description) := by
      rw [← List.mem_eraseDups, ← ih, List.any_eq_true, List.mem_map]
      simp only [decide_eq_true_eq]
      exact exists_congr fun e => and_congr_right fun he => by rw [event_of_mem_edgesTo he]
    rw [edgesTo, List.foldl_append, List.foldl_cons, List.foldl_nil, ← edgesTo, List.map_append,
      List.map_singleton, eraseDups_concat, addEdge]
    simp only [hany]
    split
    · exact ih
    · rw [List.map_append, List.map_singleton, ih, Edge.target_to]

theorem edgeTarget?_eq_some_id {tasks : List Task} {id : String} {t : Task}
    (h : edgeTarget? tasks id = some t) :
    t.id = id := by
  rw [edgeTarget?_eq] at h
  simpa using List.find?_some h

/-- What the ids lead to in the reading `r`, by name. -/
theorem map_description_filterMap {r : String → Option Task} {ids : List String}
    (h : ∀ id ∈ ids, (r id).isSome) :
    (ids.filterMap r).map (·.description) = ids.map fun id =>
      ((r id).map (·.description)).getD "" := by
  induction ids with
  | nil => rfl
  | cons id ids ih =>
    obtain ⟨t, ht⟩ := Option.isSome_iff_exists.1 (h id (by simp))
    simp [ht, ih fun id' hid' => h id' (by simp [hid'])]

namespace Compiled

variable {v : Version} {m : Machine}

/-- The first and the last task with an id are the same one exactly when there is no other. -/
theorem edgeTarget?_eq_iff (h : Compiled v m) {id : String} :
    edgeTarget? v.tasks id = v.taskById? id ↔ v.Unambiguous id := by
  constructor
  · intro heq a ha b hb hida hidb
    -- the first and the last task with the id agree, and no task stands twice
    have hnodup : (v.tasks.filter (·.id = id)).Nodup :=
      (List.Nodup.of_map _ h.descriptions).filter _
    refine eq_of_head?_eq_getLast? hnodup ?_ (by simp [ha, hida]) (by simp [hb, hidb])
    rw [List.head?_filter, ← Version.taskById?, ← heq, edgeTarget?_eq, ← List.head?_filter,
      List.filter_reverse, List.head?_reverse]
  · intro huniq
    cases hlast : edgeTarget? v.tasks id with
    | none =>
      have hno : ∀ t ∈ v.tasks, t.id ≠ id := by simpa [edgeTarget?_eq] using hlast
      symm
      simpa [Version.taskById?] using hno
    | some b =>
      obtain ⟨a, ha, hfirst, hsame⟩ := Version.exists_taskById? (mem_of_edgeTarget? hlast)
      rw [edgeTarget?_eq_some_id hlast] at hfirst hsame
      rw [hfirst, huniq a ha b (mem_of_edgeTarget? hlast) hsame (edgeTarget?_eq_some_id hlast)]

/-- Both readings know the ids of connections. -/
theorem connection_resolved (h : Compiled v m) {t : Task} (ht : t ∈ v.tasks) {id : String}
    (hid : id ∈ t.connectedTasks) :
    (∃ b ∈ v.tasks, edgeTarget? v.tasks id = some b ∧ b.id = id) ∧
      ∃ a ∈ v.tasks, v.taskById? id = some a ∧ a.id = id := by
  obtain ⟨b, hb⟩ := Option.isSome_iff_exists.1 (h.connections t ht id hid)
  have hfirst := Version.exists_taskById? (mem_of_edgeTarget? hb)
  rw [edgeTarget?_eq_some_id hb] at hfirst
  exact ⟨⟨b, mem_of_edgeTarget? hb, hb, edgeTarget?_eq_some_id hb⟩, hfirst⟩

/-- The id of the task of a name undoes every reading of ids by name. -/
theorem idOfName_eq (h : Compiled v m) {t : Task} (ht : t ∈ v.tasks) :
    ((v.taskByName? t.description).map (·.id)).getD "" = t.id := by
  rw [h.taskByName?_eq_some.2 ⟨ht, rfl⟩]
  rfl

/-- The edges of a task lead where the look-ups say exactly when these read its
    connections alike. -/
theorem targets_eq_iff (h : Compiled v m) {t s : Task} (ht : t ∈ v.tasks) (hs : s ∈ v.tasks) :
    ((successors v.tasks t).map (·.description)).eraseDups =
        ((s.connectedTasks.filterMap v.taskById?).map (·.description)).eraseDups ↔
      t.connectedTasks.eraseDups = s.connectedTasks.eraseDups ∧
        ∀ id ∈ t.connectedTasks, edgeTarget? v.tasks id = v.taskById? id := by
  have hlook : ∀ id ∈ s.connectedTasks, (v.taskById? id).isSome := by
    intro id hid
    obtain ⟨-, a, -, hfirst, -⟩ := h.connection_resolved hs hid
    simp [hfirst]
  -- an id is got back from the name of its task, so the names agree when the ids do
  rw [successors, map_description_filterMap (h.connections t ht), map_description_filterMap hlook,
    eraseDups_map_eq_iff (g := fun name => ((v.taskByName? name).map (·.id)).getD "")]
  · refine and_congr_right fun _ => forall₂_congr fun id hid => ?_
    obtain ⟨⟨b, hb, hlast, -⟩, a, ha, hfirst, -⟩ := h.connection_resolved ht hid
    rw [hlast, hfirst]
    constructor
    · intro hname
      rw [h.task_eq hb ha hname]
    · intro hsame
      cases hsame
      rfl
  · intro id hid
    obtain ⟨⟨b, hb, hlast, hbid⟩, -⟩ := h.connection_resolved ht hid
    rw [hlast, Option.map_some, Option.getD_some, h.idOfName_eq hb, hbid]
  · intro id hid
    obtain ⟨-, a, ha, hfirst, haid⟩ := h.connection_resolved hs hid
    rw [hfirst, Option.map_some, Option.getD_some, h.idOfName_eq ha, haid]

end Compiled

/-! ### When ids are read alike -/

/-- The edges of every state, and the first task, are those of the look-ups of the version. -/
structure ResolvesAlike (v : Version) (m : Machine) : Prop where
  edges : ∀ t ∈ v.tasks, (m.state? t.description).map (·.edges.map (·.target)) =
    some ((v.connectedTasks t.id).map (·.description)).eraseDups
  initial : (v.firstTask.bind (edgeTarget? v.tasks)).map (·.description) = some m.initial

namespace Compiled

variable {v : Version} {m : Machine}

theorem edges_iff (h : Compiled v m) {t : Task} (ht : t ∈ v.tasks) :
    (m.state? t.description).map (·.edges.map (·.target)) =
        some ((v.connectedTasks t.id).map (·.description)).eraseDups ↔
      ∃ s, v.taskById? t.id = some s ∧ t.connectedTasks.eraseDups = s.connectedTasks.eraseDups ∧
        ∀ id ∈ t.connectedTasks, v.Unambiguous id := by
  obtain ⟨s, hmem, hs, -⟩ := Version.exists_taskById? ht
  rw [h.state?_task ht, Option.map_some, Option.some.injEq, stateWith, targets_edgesTo,
    Version.connectedTasks, hs, Option.map_some, Option.getD_some, h.targets_eq_iff ht hmem]
  simp only [h.edgeTarget?_eq_iff, Option.some.injEq, exists_eq_left']

theorem initial_iff (h : Compiled v m) :
    (v.firstTask.bind (edgeTarget? v.tasks)).map (·.description) = some m.initial ↔
      ∀ id, v.firstTask = some id → v.Unambiguous id := by
  obtain ⟨first, hfirst, rfl⟩ := h.machine
  obtain ⟨id, hid, hfound⟩ := Option.bind_eq_some_iff.1 hfirst
  simp only [hid, Option.bind_some, Option.some.injEq, forall_eq', ← h.edgeTarget?_eq_iff, hfound,
    Option.map_eq_some_iff]
  constructor
  · rintro ⟨b, hb, hname⟩
    rw [hb, h.task_eq (mem_of_edgeTarget? hb) (List.mem_of_find?_eq_some hfound) hname]
  · intro hsame
    exact ⟨first, hsame, rfl⟩

end Compiled

/-- The machine reads every id as the look-ups of the version do exactly when the ids are clear. -/
theorem resolvesAlike_iff {v : Version} {m : Machine} (h : compile v = .ok m) :
    ResolvesAlike v m ↔ v.ClearIds := by
  have hc := compile_eq_ok.1 h
  constructor
  · intro halike
    have hedges {t : Task} (ht : t ∈ v.tasks) := (hc.edges_iff ht).1 (halike.edges t ht)
    constructor
    · rintro id (hfirst | ⟨t, ht, hid⟩)
      · exact hc.initial_iff.1 halike.initial id hfirst
      · obtain ⟨s, -, -, hclear⟩ := hedges ht
        exact hclear id hid
    · intro a ha b hb hid
      obtain ⟨s, hs, has, -⟩ := hedges ha
      obtain ⟨s', hs', hbs, -⟩ := hedges hb
      rw [← hid, hs] at hs'
      cases hs'
      rw [has, hbs]
  · intro hclear
    constructor
    · intro t ht
      obtain ⟨s, hmem, hs, hid⟩ := Version.exists_taskById? ht
      refine (hc.edges_iff ht).2 ⟨s, hs, hclear.shared t ht s hmem hid.symm, ?_⟩
      exact fun id hid => hclear.named id (.inr ⟨t, ht, hid⟩)
    · exact hc.initial_iff.2 fun id hid => hclear.named id (.inl hid)

theorem booking_resolves_alike :
    ResolvesAlike (booking ["name"] "Hello")
        (machineOf (booking ["name"] "Hello") (welcome "Hello")) :=
  (resolvesAlike_iff (compile_eq_ok.2 (compiled_booking ["name"] "Hello"))).2
    (.of_nodup (by simp [booking, welcome]))

/-- The task of booking shares its id with another one. -/
def twins (prompt : String) : Version :=
  { booking [] prompt with
    tasks := [welcome prompt, { id := "t2", description := "book", kind := .automated true },
              { id := "t2", description := "cancel", kind := .automated true }] }

theorem compiled_twins (prompt : String) :
    Compiled (twins prompt) (machineOf (twins prompt) (welcome prompt)) where
  published := rfl
  declarations := by simp [twins, booking]
  parameters := by simp [twins, Version.undeclaredParameters, welcome]
  descriptions := by simp [twins, welcome]
  tasks := by simp [twins, welcome, Task.problems, TaskKind.routing?]
  connections := by simp [twins, welcome, edgeTarget?_eq]
  machine := ⟨welcome prompt, by simp [twins, booking, welcome, Version.taskById?], rfl⟩

/-- The look-up finds the task of booking, the edge leads to the other one. -/
theorem twins_resolve_apart : ∃ m, compile (twins "") = .ok m ∧
    ((twins "").connectedTasks "t1").map (·.description) = ["book", "welcome", "book"] ∧
    (m.state? "welcome").map (·.edges.map (·.target)) = some ["cancel", "welcome"] ∧
    ¬ ResolvesAlike (twins "") m := by
  have hc := compiled_twins ""
  have hwelcome : welcome "" ∈ (twins "").tasks := by simp [twins]
  have hlook :
      ((twins "").connectedTasks "t1").map (·.description) = ["book", "welcome", "book"] := by
    simp [twins, welcome, Version.connectedTasks, Version.taskById?]
  have hedges :
      ((machineOf (twins "") (welcome "")).state? "welcome").map (·.edges.map (·.target)) =
      some ["cancel", "welcome"] := by
    have hstate := hc.state?_task hwelcome
    rw [show (welcome "").description = "welcome" from rfl] at hstate
    rw [hstate]
    simp [stateWith, edgesTo, successors, addEdge, twins, welcome, edgeTarget?_eq]
  refine ⟨_, compile_eq_ok.2 hc, hlook, hedges, ?_⟩
  intro halike
  have hsame := halike.edges (welcome "") hwelcome
  rw [show (welcome "").description = "welcome" from rfl, hedges,
    show (welcome "").id = "t1" from rfl, hlook] at hsame
  revert hsame
  decide

end Dialogue.StateMachine
