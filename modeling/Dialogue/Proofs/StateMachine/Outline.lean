import Dialogue.Proofs.StateMachine.Compiled

/-! # What an outline tells

    The outline writes texts of the author between line breaks, bars and commas. Where the
    texts hold none of these marks it can be read back line by line, and two machines with
    one outline have one structure (`sameStructure_of_outline`). A text that holds a mark
    can be read in two ways. -/

namespace Dialogue.StateMachine

/-! ### Structure -/

/-- What counts of a state: its name, the id and kind of its task, and its edges. -/
def State.shape (s : State) : String × String × String × List Edge :=
  (s.name, s.task.taskId, s.task.kind.tag, s.edges)

/-- The machines differ at most in what the agent is shown and in how conversations close. -/
structure SameStructure (m₁ m₂ : Machine) : Prop where
  id : m₁.id = m₂.id
  initial : m₁.initial = m₂.initial
  states : m₁.states.map State.shape = m₂.states.map State.shape
  index : m₁.index = m₂.index

theorem SameStructure.symm {m₁ m₂ : Machine} (h : SameStructure m₁ m₂) : SameStructure m₂ m₁ :=
  ⟨h.id.symm, h.initial.symm, h.states.symm, h.index.symm⟩

/-- The names of the states determine the index. -/
theorem Machine.Indexed.index_eq {m₁ m₂ : Machine} (h₁ : m₁.Indexed) (h₂ : m₂.Indexed)
    (hshapes : m₁.states.map State.shape = m₂.states.map State.shape) : m₁.index = m₂.index := by
  have hposition (m : Machine) (name : String) (i : Nat) :
      (∃ s, m.states[i]? = some s ∧ s.name = name) ↔
      ∃ shape, (m.states.map State.shape)[i]? = some shape ∧ shape.1 = name := by
    simp [List.getElem?_map, State.shape]
  ext1 name
  ext1 i
  rw [h₁.position, h₂.position, hposition, hposition, hshapes]

/-- The texts of the machine hold no mark that ends them in the outline. -/
structure Machine.Plain (m : Machine) : Prop where
  id : '\n' ∉ m.id.toList
  names : ∀ s ∈ m.states, '\n' ∉ s.name.toList ∧ '|' ∉ s.name.toList
  taskIds : ∀ s ∈ m.states, '\n' ∉ s.task.taskId.toList
  /-- One empty id reads like no id. -/
  required : ∀ s ∈ m.states, ∀ e ∈ s.edges,
    e.required ≠ [""] ∧ ∀ id ∈ e.required, '\n' ∉ id.toList ∧ ',' ∉ id.toList

/-- The text that the fingerprint of the machine is the digest of. -/
def Machine.outline (m : Machine) : String := StateMachine.outline m.id m.initial m.states

/-! ### Texts between marks -/

/-- The text before a mark that it does not hold is determined, and so is what follows. -/
theorem mark_unique {c : Char} : ∀ {a b x y : List Char}, c ∉ a → c ∉ b →
    a ++ c :: x = b ++ c :: y → a = b ∧ x = y
  | [], [], x, y, _, _, h => ⟨rfl, by simpa using h⟩
  | [], d :: b, x, y, _, hb, h => by
    simp only [List.nil_append, List.cons_append, List.cons.injEq] at h
    exact absurd (h.1 ▸ List.mem_cons_self) hb
  | d :: a, [], x, y, ha, _, h => by
    simp only [List.nil_append, List.cons_append, List.cons.injEq] at h
    exact absurd (h.1 ▸ List.mem_cons_self) ha
  | d :: a, e :: b, x, y, ha, hb, h => by
    simp only [List.cons_append, List.cons.injEq] at h
    obtain ⟨rfl, h⟩ := h
    obtain ⟨rfl, rfl⟩ := mark_unique (fun m => ha (List.mem_cons_of_mem _ m))
      (fun m => hb (List.mem_cons_of_mem _ m)) h
    exact ⟨rfl, rfl⟩

/-- Texts without line breaks can be told from the lines they make. -/
theorem lines_unique : ∀ {xs ys : List (List Char)}, (∀ x ∈ xs, '\n' ∉ x) → (∀ y ∈ ys, '\n' ∉ y) →
    xs.flatMap (· ++ ['\n']) = ys.flatMap (· ++ ['\n']) → xs = ys
  | [], [], _, _, _ => rfl
  | [], y :: ys, _, _, h => by simp at h
  | x :: xs, [], _, _, h => by simp at h
  | x :: xs, y :: ys, hx, hy, h => by
    rw [List.forall_mem_cons] at hx hy
    simp only [List.flatMap_cons, List.append_assoc, List.singleton_append] at h
    obtain ⟨rfl, hrest⟩ := mark_unique hx.1 hy.1 h
    rw [lines_unique hx.2 hy.2 hrest]

theorem toList_lines : ∀ ls : List String,
    ("".intercalate (ls.map (· ++ "\n"))).toList = (ls.map String.toList).flatMap (· ++ ['\n'])
  | [] => rfl
  | [l] => by simp
  | l :: l' :: ls => by
    have ih := toList_lines (l' :: ls)
    simp only [List.map_cons, String.intercalate_cons_cons, String.toList_append] at ih ⊢
    rw [ih]
    simp

theorem join_eq_empty {xs : List String} (h : ",".intercalate xs = "") : xs = [] ∨ xs = [""] := by
  match xs with
  | [] => exact .inl rfl
  | [x] => exact .inr (by simpa using h)
  | x :: y :: xs =>
    have hlen := congrArg String.length h
    simp [String.intercalate_cons_cons] at hlen

/-- Ids without commas can be told from their list, unless that is a single empty one. -/
theorem join_unique {xs ys : List String} (hx : ∀ x ∈ xs, ',' ∉ x.toList)
    (hy : ∀ y ∈ ys, ',' ∉ y.toList) (hx₁ : xs ≠ [""]) (hy₁ : ys ≠ [""])
    (h : ",".intercalate xs = ",".intercalate ys) : xs = ys := by
  -- splitting at the commas gives the texts back, but for the empty list
  have hsplit {zs : List String} (hz : ∀ z ∈ zs, ',' ∉ z.toList) (hne : zs ≠ []) :
      (",".intercalate zs).toList.splitOn ',' = zs.map String.toList := by
    rw [String.toList_intercalate]
    exact List.splitOn_intercalate ',' (by simpa using hz) (by simpa using hne)
  rcases eq_or_ne xs [] with rfl | hne
  · exact ((join_eq_empty h.symm).resolve_right hy₁).symm
  · rcases eq_or_ne ys [] with rfl | hne'
    · exact (join_eq_empty h).resolve_right hx₁
    · have hmap : xs.map String.toList = ys.map String.toList := by
        rw [← hsplit hx hne, ← hsplit hy hne', h]
      exact List.map_injective_iff.2 (fun _ _ => String.toList_inj.1) hmap

/-! ### Lines of a state -/

/-- The line of a state. -/
def stateLine (s : State) : String := s!"state:{s.task.name}|{s.task.taskId}|{s.task.kind.tag}"

/-- The line of an edge. -/
def edgeLine (e : Edge) : String := s!"edge:{e.target}|" ++ ",".intercalate e.required

theorem State.lines_eq (s : State) : s.lines = stateLine s :: s.edges.map edgeLine := rfl

theorem toList_stateLine (s : State) :
    (stateLine s).toList =
    "state:".toList ++
        (s.name.toList ++ '|' :: (s.task.taskId.toList ++ '|' :: s.task.kind.tag.toList)) := by
  simp [stateLine, State.name, toString]

theorem toList_edgeLine (e : Edge) : (edgeLine e).toList =
    "edge:".toList ++ (e.target.toList ++ '|' :: (",".intercalate e.required).toList) := by
  simp [edgeLine, toString]

theorem length_tag (k : Flow.TaskKind) : k.tag.toList.length = 3 := by
  cases k <;> simp [Flow.TaskKind.tag]

theorem stateLine_unique {s t : State} (hs : '|' ∉ s.name.toList) (ht : '|' ∉ t.name.toList)
    (h : stateLine s = stateLine t) :
    s.name = t.name ∧ s.task.taskId = t.task.taskId ∧ s.task.kind.tag = t.task.kind.tag := by
  have hl := congrArg String.toList h
  rw [toList_stateLine, toList_stateLine] at hl
  obtain ⟨hname, hrest⟩ := mark_unique hs ht (List.append_cancel_left hl)
  obtain ⟨hid, htag⟩ := List.append_inj' hrest (by simp [length_tag])
  exact ⟨String.toList_inj.1 hname, String.toList_inj.1 hid,
    String.toList_inj.1 (List.cons.inj htag).2⟩

/-- The edge says the same by its event, its target and its effect. The target holds no bar, the
    required ids hold no comma and are not a single empty one. -/
structure Edge.IsPlain (e : Edge) : Prop where
  label : e = .to e.target e.required
  target : '|' ∉ e.target.toList
  single : e.required ≠ [""]
  required : ∀ id ∈ e.required, ',' ∉ id.toList

theorem edgeLine_unique {e f : Edge} (he : e.IsPlain) (hf : f.IsPlain)
    (h : edgeLine e = edgeLine f) : e = f := by
  have hl := congrArg String.toList h
  rw [toList_edgeLine, toList_edgeLine] at hl
  obtain ⟨htarget, hjoin⟩ := mark_unique he.target hf.target (List.append_cancel_left hl)
  have hrequired :=
    join_unique he.required hf.required he.single hf.single (String.toList_inj.1 hjoin)
  rw [he.label, hf.label, String.toList_inj.1 htarget, hrequired]

theorem edgeLines_unique : ∀ {es fs : List Edge}, (∀ e ∈ es, e.IsPlain) → (∀ f ∈ fs, f.IsPlain) →
    es.map edgeLine = fs.map edgeLine → es = fs
  | [], [], _, _, _ => rfl
  | [], _ :: _, _, _, h => by simp at h
  | _ :: _, [], _, _, h => by simp at h
  | e :: es, f :: fs, he, hf, h => by
    rw [List.forall_mem_cons] at he hf
    rw [List.map_cons, List.map_cons, List.cons.injEq] at h
    rw [edgeLine_unique he.1 hf.1 h.1, edgeLines_unique he.2 hf.2 h.2]

/-- The line is that of an edge. -/
def isEdgeLine (l : String) : Bool := l.toList.head? = some 'e'

@[simp] theorem isEdgeLine_edgeLine (e : Edge) : isEdgeLine (edgeLine e) = true := by
  simp [isEdgeLine, toList_edgeLine]

@[simp] theorem isEdgeLine_stateLine (s : State) : isEdgeLine (stateLine s) = false := by
  simp [isEdgeLine, toList_stateLine]

/-! ### Outlines -/

/-- The edges of a state end where the line of the next state begins. -/
theorem edgeLines_end (es : List Edge) (ss : List State) :
    (es.map edgeLine ++ ss.flatMap State.lines).takeWhile isEdgeLine = es.map edgeLine ∧
      (es.map edgeLine ++ ss.flatMap State.lines).dropWhile isEdgeLine =
          ss.flatMap State.lines := by
  have hall : ∀ l ∈ es.map edgeLine, isEdgeLine l := by simp
  have hnext : (ss.flatMap State.lines).takeWhile isEdgeLine = [] ∧
      (ss.flatMap State.lines).dropWhile isEdgeLine = ss.flatMap State.lines := by
    cases ss <;> simp [State.lines_eq]
  rw [List.takeWhile_append_of_pos hall, List.dropWhile_append_of_pos hall, hnext.1, hnext.2,
    List.append_nil]
  exact ⟨rfl, rfl⟩

/-- The lines of states give the states back, up to what is shown of them. -/
theorem stateLines_unique : ∀ {ss ts : List State},
    (∀ s ∈ ss, '|' ∉ s.name.toList ∧ ∀ e ∈ s.edges, e.IsPlain) →
    (∀ t ∈ ts, '|' ∉ t.name.toList ∧ ∀ e ∈ t.edges, e.IsPlain) →
    ss.flatMap State.lines = ts.flatMap State.lines →
    ss.map State.shape = ts.map State.shape
  | [], [], _, _, _ => rfl
  | [], t :: ts, _, _, h => by simp [State.lines_eq] at h
  | s :: ss, [], _, _, h => by simp [State.lines_eq] at h
  | s :: ss, t :: ts, hs, ht, h => by
    rw [List.forall_mem_cons] at hs ht
    simp only [List.flatMap_cons, State.lines_eq, List.cons_append, List.cons.injEq] at h
    obtain ⟨hline, hrest⟩ := h
    obtain ⟨hname, hid, htag⟩ := stateLine_unique hs.1.1 ht.1.1 hline
    -- the edges of the first state end where a line is no edge line
    have htake := congrArg (List.takeWhile isEdgeLine) hrest
    have hdrop := congrArg (List.dropWhile isEdgeLine) hrest
    rw [(edgeLines_end s.edges ss).1, (edgeLines_end t.edges ts).1] at htake
    rw [(edgeLines_end s.edges ss).2, (edgeLines_end t.edges ts).2] at hdrop
    rw [List.map_cons, List.map_cons, stateLines_unique hs.2 ht.2 hdrop]
    simp [State.shape, hname, hid, htag, edgeLines_unique hs.1.2 ht.1.2 htake]

theorem newline_not_mem_join {xs : List String} (h : ∀ x ∈ xs, '\n' ∉ x.toList) :
    '\n' ∉ (",".intercalate xs).toList := by
  match xs with
  | [] => simp
  | [x] => simpa using h
  | x :: y :: xs =>
    rw [List.forall_mem_cons] at h
    have ih := newline_not_mem_join h.2
    simp only [String.intercalate_cons_cons, String.toList_append, List.mem_append, not_or]
    exact ⟨⟨h.1, by simp⟩, ih⟩

theorem Machine.Plain.newline_not_mem {m : Machine} (hp : m.Plain) (hc : m.Closed) :
    ∀ l ∈ (outlineLines m.id m.initial m.states).map String.toList, '\n' ∉ l := by
  have hname {n : String} (h : ∃ s ∈ m.states, s.name = n) : '\n' ∉ n.toList := by
    obtain ⟨s, hs, rfl⟩ := h
    exact (hp.names s hs).1
  simp only [List.forall_mem_map, outlineLines, List.forall_mem_cons, List.forall_mem_flatMap]
  refine ⟨by simpa [toString] using hp.id, by simpa [toString] using hname hc.initial,
    fun s hs => ?_⟩
  rw [State.lines_eq, List.forall_mem_cons, List.forall_mem_map]
  constructor
  -- the line of a state
  · rw [toList_stateLine]
    have htag : '\n' ∉ s.task.kind.tag.toList := by cases s.task.kind <;> simp [Flow.TaskKind.tag]
    simp [(hp.names s hs).1, hp.taskIds s hs, htag]
  -- the line of an edge
  · intro e he
    rw [toList_edgeLine]
    have hjoin : '\n' ∉ (",".intercalate e.required).toList := by
      apply newline_not_mem_join
      intro id hid
      exact ((hp.required s hs e he).2 id hid).1
    simp only [List.mem_append, List.mem_cons, not_or]
    exact ⟨by simp, hname (hc.edges s hs e he), by decide, hjoin⟩

/-- Plain machines with one outline have one structure. -/
theorem sameStructure_of_outline {m₁ m₂ : Machine} (hp₁ : m₁.Plain) (hp₂ : m₂.Plain)
    (hc₁ : m₁.Closed) (hc₂ : m₂.Closed) (h : m₁.outline = m₂.outline) : SameStructure m₁ m₂ := by
  have hl := congrArg String.toList h
  rw [Machine.outline, outline, toList_lines, Machine.outline, outline, toList_lines] at hl
  -- the lines are those of the outline, since none has a line break in it
  have hlines := List.map_injective_iff.2 (fun _ _ => String.toList_inj.1)
    (lines_unique (hp₁.newline_not_mem hc₁) (hp₂.newline_not_mem hc₂) hl)
  simp only [outlineLines, List.cons.injEq] at hlines
  obtain ⟨hid, hinitial, hstates⟩ := hlines
  have hplain {m : Machine} (hp : m.Plain) (hc : m.Closed) :
      ∀ s ∈ m.states, '|' ∉ s.name.toList ∧ ∀ e ∈ s.edges, e.IsPlain := by
    intro s hs
    refine ⟨(hp.names s hs).2, ?_⟩
    intro e he
    refine ⟨hc.labels s hs e he, ?_, (hp.required s hs e he).1, ?_⟩
    · obtain ⟨s', hs', htarget⟩ := hc.edges s hs e he
      rw [← htarget]
      exact (hp.names s' hs').2
    · intro id hid
      exact ((hp.required s hs e he).2 id hid).2
  have hshapes := stateLines_unique (hplain hp₁ hc₁) (hplain hp₂ hc₂) hstates
  refine ⟨?_, ?_, hshapes, hc₁.indexed.index_eq hc₂.indexed hshapes⟩
  · simpa [toString] using hid
  · simpa [toString] using hinitial

end Dialogue.StateMachine
