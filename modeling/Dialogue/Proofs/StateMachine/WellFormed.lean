import Dialogue.Proofs.StateMachine.Compiled

/-! # Compiled machines are well formed

    A compiled machine can be run without a check. Its states have different names, and the index
    that was filled on the way has each of them where it stands, so a name finds the state of that
    name and no other; it starts in a state and every edge leads to one, a state has one edge for an
    event at most, and all that an edge requires is declared (`Compiled.wellFormed`). Tasks may
    share their ids, and connections may be repeated. -/

namespace Dialogue.StateMachine

open Dialogue.Flow

/-! ### Edges -/

/-- An edge is only added for an event that no edge has yet. -/
theorem nodup_addEdge {es : List Edge} (h : (es.map (·.event)).Nodup) (t : Task) :
    ((addEdge es t).map (·.event)).Nodup := by
  unfold addEdge
  split
  · exact h
  · rename_i hnone
    have hnew : t.description ∉ es.map (·.event) := by simpa using hnone
    rw [List.map_append, List.map_singleton, List.nodup_append]
    refine ⟨h, List.nodup_singleton _, ?_⟩
    intro event hevent last hlast heq
    rw [List.mem_singleton] at hlast
    rw [heq, hlast] at hevent
    exact hnew hevent

theorem nodup_foldl_addEdge {ts : List Task} {es : List Edge} (h : (es.map (·.event)).Nodup) :
    ((ts.foldl addEdge es).map (·.event)).Nodup := by
  induction ts generalizing es with
  | nil => exact h
  | cons t ts ih => exact ih (nodup_addEdge h t)

/-! ### Machines -/

/-- What running a machine relies on. -/
structure Machine.WellFormed (m : Machine) : Prop extends m.Closed where
  names : (m.states.map State.name).Nodup
  /-- No look-up goes beyond the states. -/
  inside : ∀ name i, m.index.get? name = some i → i < m.states.length
  /-- A name finds exactly the state that has it. -/
  found : ∀ name s, m.state? name = some s ↔ s ∈ m.states ∧ s.name = name
  /-- No two edges of a state are asked for by one event. -/
  events : ∀ s ∈ m.states, (s.edges.map (·.event)).Nodup
  required : ∀ s ∈ m.states, ∀ e ∈ s.edges, ∀ id ∈ e.required, m.declares id

theorem Compiled.names {v : Version} {m : Machine} (h : Compiled v m) :
    (m.states.map State.name).Nodup := by
  have hnames : m.states.map State.name = v.tasks.map (·.description) := by
    rw [h.states_eq, List.map_map]
    rfl
  rw [hnames]
  exact h.descriptions

theorem Compiled.wellFormed {v : Version} {m : Machine} (h : Compiled v m) : m.WellFormed where
  toClosed := h.closed
  names := h.names
  inside _ _ := h.indexed.lt_length
  found _ _ := h.indexed.state?_eq_some
  events s hs := by
    rw [h.states_eq, List.mem_map] at hs
    obtain ⟨t, -, rfl⟩ := hs
    exact nodup_foldl_addEdge List.nodup_nil
  required s hs e he id hid := by
    -- an edge comes from a connected task, and requires what that task does
    obtain ⟨b, hb, rfl⟩ := h.exists_successor hs he
    exact h.declares_required hb hid

end Dialogue.StateMachine
