import Dialogue.Proofs.StateMachine.Outline
import Dialogue.Proofs.Memory.Described

/-! # What the table of a bucket can be read back to

    A reader of the table cuts it at the line breaks and each line at the bars. The texts in a row
    are not escaped, so what is read are, row by row, the lines that its own texts make
    (`linesOf_table`): no text changes the lines of another row. But only a row without marks in its
    texts is read as the one line that it is due (`lines_eq_iff`); a value with both marks adds
    lines that look like rows of any other variable (`table_forged`). -/

namespace Dialogue.Memory

open Json

/-! ### Rows -/

/-- What one row of the table tells. -/
structure Row where
  variableId : String
  property : String
  value : String
  deriving DecidableEq, Repr

namespace Row

/-- The row as it is written, without its line break. -/
def text (r : Row) : String := s!"|{r.variableId}|{r.property}|{r.value}|"

/-- The cells that the row should be read as. -/
def cells (r : Row) : List String := ["", r.variableId, r.property, r.value, ""]

/-- No text of the row holds a mark of the table. -/
def IsPlain (r : Row) : Prop :=
  ∀ t ∈ [r.variableId, r.property, r.value], '\n' ∉ t.toList ∧ '|' ∉ t.toList

theorem tableRow_eq (r : Row) : tableRow r.variableId r.property r.value = r.text ++ "\n" := by
  have hend : "|\n" = "|" ++ "\n" := rfl
  simp only [tableRow, text, toString, hend, String.append_assoc]

end Row

/-- The rows that the fact is due: one for each description, or one for the value where
    there are none. -/
def Fact.due (id : String) (f : Fact) : List Row :=
  match f.descriptions with
  | some (d :: ds) => (d :: ds).map fun d => ⟨id, d.name, d.value⟩
  | _ => [⟨id, "", displayValue f.value⟩]

/-- The rows that the variable is due; without a value it is due none. -/
def Bucket.dueTo (b : Bucket) (id : String) : List Row :=
  ((b.get? id).filter Fact.hasValue).elim [] (Fact.due id)

/-- All rows that are due, in ascending order of the variables. -/
def Bucket.due (b : Bucket) : List Row := b.keys.flatMap b.dueTo

theorem Fact.rows_eq (id : String) (f : Fact) :
    f.rows id = ((f.due id).map Row.text).map (· ++ "\n") := by
  have hrows : f.rows id = (f.due id).map fun r => tableRow r.variableId r.property r.value := by
    rcases hds : f.descriptions with _ | _ | ⟨d, ds⟩ <;> simp [rows, due, hds]
  rw [hrows, List.map_map]
  exact List.map_congr_left fun r _ => r.tableRow_eq

theorem Bucket.rowsOf_eq (b : Bucket) (id : String) :
    b.rowsOf id = ((b.dueTo id).map Row.text).map (· ++ "\n") := by
  rw [rowsOf, dueTo]
  cases b.get? id with
  | none => rfl
  | some f =>
    rw [Option.map_some, Option.getD_some, Fact.shown, Option.filter_some]
    split
    · exact f.rows_eq id
    · rfl

theorem table_eq_due (b : Bucket) :
    table b = tableHead ++ "".intercalate ((b.due.map Row.text).map (· ++ "\n")) := by
  rw [table_eq_rowsOf, Bucket.due, List.map_flatMap, List.map_flatMap]
  exact congrArg (fun rows => tableHead ++ "".intercalate rows)
    (List.flatMap_congr fun id _ => b.rowsOf_eq id)

/-! ### Reading the table -/

/-- The cells of a line. -/
def cellsOf (line : List Char) : List String := (line.splitOn '|').map String.ofList

/-- The lines of a text by their cells. -/
def linesOf (text : String) : List (List String) := (text.toList.splitOn '\n').map cellsOf

/-- The lines that the row is read as. -/
def Row.lines (r : Row) : List (List String) := linesOf r.text

/-- The lines that the head of the table is read as. -/
def headLines : List (List String) :=
  [["", "var", "property", "value", ""], ["", "-", "-", "-", ""]]

/-- A piece between two marks is made of characters of the text, and not of the mark. -/
theorem mem_of_mem_splitOn {mark c : Char} {piece : List Char} (hc : c ∈ piece) :
    ∀ {text : List Char}, piece ∈ text.splitOn mark → c ∈ text ∧ c ≠ mark
  | [], hpiece => by
    rw [List.splitOn_nil, List.mem_singleton] at hpiece
    exact absurd hc (hpiece ▸ List.not_mem_nil)
  | d :: text, hpiece => by
    rw [List.splitOn_cons_eq_if_modifyHead] at hpiece
    obtain ⟨first, rest, hsplit⟩ := List.exists_cons_of_ne_nil (List.splitOn_ne_nil mark text)
    have hbehind {p : List Char} (hp : p ∈ text.splitOn mark) (hcp : c ∈ p) :
        c ∈ d :: text ∧ c ≠ mark :=
      (mem_of_mem_splitOn hcp hp).imp_left (List.mem_cons_of_mem d)
    -- at a mark a new piece begins, and any other character goes to the first piece
    split at hpiece
    · rcases List.mem_cons.1 hpiece with rfl | hpiece
      · cases hc
      · exact hbehind hpiece hc
    next hmark =>
      rw [hsplit, List.modifyHead_cons, List.mem_cons] at hpiece
      rcases hpiece with rfl | hpiece
      · rcases List.mem_cons.1 hc with rfl | hc
        · exact ⟨List.mem_cons_self, by simpa using hmark⟩
        · exact hbehind (hsplit ▸ List.mem_cons_self) hc
      · exact hbehind (hsplit ▸ List.mem_cons_of_mem first hpiece) hc

/-- What is read from a cell holds no mark. -/
theorem no_mark_of_mem_linesOf {text t : String} {line : List String} (hline : line ∈ linesOf text)
    (ht : t ∈ line) :
    '\n' ∉ t.toList ∧ '|' ∉ t.toList := by
  obtain ⟨l, hl, rfl⟩ := List.mem_map.1 hline
  obtain ⟨cell, hcell, rfl⟩ := List.mem_map.1 ht
  rw [String.toList_ofList]
  exact ⟨fun hbreak => (mem_of_mem_splitOn (mem_of_mem_splitOn hbreak hcell).1 hl).2 rfl,
    fun hbar => (mem_of_mem_splitOn hbar hcell).2 rfl⟩

theorem Row.isPlain_of_mem_linesOf {r : Row} {text : String} (h : r.cells ∈ linesOf text) :
    r.IsPlain :=
  fun _ ht => no_mark_of_mem_linesOf h (List.mem_cons_of_mem "" (List.mem_append_left [""] ht))

theorem Row.lines_of_isPlain {r : Row} (h : r.IsPlain) : r.lines = [r.cells] := by
  obtain ⟨hid, hproperty, hvalue, -⟩ : _ ∧ _ ∧ _ ∧ _ := by
    simpa only [IsPlain, List.forall_mem_cons] using h
  -- the four bars of the row are the only ones
  have htext : r.text.toList = [] ++ '|' :: (r.variableId.toList ++ '|' :: (r.property.toList ++
      '|' :: (r.value.toList ++ '|' :: []))) := by
    simp [text, toString]
  have hbreak : '\n' ∉ r.text.toList := by
    simp [htext, hid.1, hproperty.1, hvalue.1]
  rw [lines, linesOf, List.splitOn_eq_singleton hbreak, List.map_singleton, cellsOf, htext,
    List.splitOn_append_cons_self_of_not_mem List.not_mem_nil,
    List.splitOn_append_cons_self_of_not_mem hid.2,
    List.splitOn_append_cons_self_of_not_mem hproperty.2,
    List.splitOn_append_cons_self_of_not_mem hvalue.2, List.splitOn_nil]
  simp [cells]

/-- A row is read as the line that it is due exactly where no text of it holds a mark. -/
theorem Row.lines_eq_iff (r : Row) : r.lines = [r.cells] ↔ r.IsPlain :=
  ⟨fun h => isPlain_of_mem_linesOf (h.symm ▸ List.mem_singleton_self r.cells : r.cells ∈ r.lines),
    lines_of_isPlain⟩

theorem linesOf_append (line text : String) :
    linesOf (line ++ "\n" ++ text) = linesOf line ++ linesOf text := by
  simp [linesOf, List.splitOn_append_cons_self]

theorem join_cons (s : String) : ∀ rest : List String, "".intercalate
    (s :: rest) = s ++ "".intercalate rest
  | [] => by simp
  | s' :: rest => by rw [String.intercalate_cons_cons, String.append_empty]

theorem linesOf_rows (rs : List Row) :
    linesOf ("".intercalate ((rs.map Row.text).map (· ++ "\n"))) = rs.flatMap Row.lines ++
        [[""]] := by
  induction rs with
  | nil => decide
  | cons r rs ih => rw [List.map_cons, List.map_cons, join_cons, linesOf_append, ih,
    List.flatMap_cons, List.append_assoc, Row.lines]

/-- Whatever the texts in it, the table is read row by row. -/
theorem linesOf_table (b : Bucket) :
    linesOf (table b) = headLines ++ b.due.flatMap Row.lines ++ [[""]] := by
  have hhead : tableHead = "|var|property|value|" ++ "\n" ++ ("|-|-|-|" ++ "\n") := rfl
  rw [table_eq_due, hhead, String.append_assoc, linesOf_append, linesOf_append, linesOf_rows,
    ← List.append_assoc, ← List.append_assoc]
  rfl

/-- The table is read as the rows that are due exactly where their texts hold no mark. -/
theorem linesOf_table_eq_iff (b : Bucket) :
    linesOf (table b) = headLines ++ b.due.map Row.cells ++ [[""]] ↔ ∀ r ∈ b.due, r.IsPlain := by
  constructor
  · intro h r hr
    have hline : r.cells ∈ linesOf (table b) :=
      h ▸ List.mem_append_left _ (List.mem_append_right _ (List.mem_map_of_mem hr))
    exact Row.isPlain_of_mem_linesOf hline
  · intro hplain
    rw [linesOf_table, List.map_eq_flatMap]
    exact congrArg (headLines ++ · ++ [[""]])
      (List.flatMap_congr fun r hr => Row.lines_of_isPlain (hplain r hr))

/-- What is read of a table are, variable after variable in ascending order, the lines that the rows
    due to the variable make, whatever other variables hold. These are one line for each row, with
    its cells, exactly where no text in the rows holds a mark. -/
theorem table_reads_back_iff (b : Bucket) :
    linesOf (table b) = headLines ++ b.keys.flatMap (fun id => (b.dueTo id).flatMap Row.lines) ++
        [[""]] ∧
    b.keys.Pairwise (· < ·) ∧ (∀ r : Row, r.lines = [r.cells] ↔ r.IsPlain) ∧
    (linesOf (table b) = headLines ++ b.due.map Row.cells ++ [[""]] ↔ ∀ r ∈ b.due, r.IsPlain) := by
  refine ⟨?_, List.pairwise_map.2 b.ascending, Row.lines_eq_iff, linesOf_table_eq_iff b⟩
  rw [linesOf_table, Bucket.due, List.flatMap_assoc]

/-- A fact of which only the value is known. -/
def said (value : String) : Fact := { value := .string value, contactId := "k1" }

/-- Two facts whose values hold no marks. -/
def honest : Bucket := Dict.insert (Dict.insert .empty "city" (said "Rome")) "name" (said "Ada")

/-- Nothing but a city, in whose value the row of a name stands. -/
def forged : Bucket := Dict.insert .empty "city" (said "Rome|\n|name||Ada")

/-- A table shows a name that the bucket does not hold, and cannot be told from one that does. -/
theorem table_forged : table forged = table honest ∧ forged.get? "name" = none ∧
    linesOf (table forged) =
        headLines ++ [["", "city", "", "Rome", ""], ["", "name", "", "Ada", ""], [""]] ∧
    linesOf (table forged) ≠ headLines ++ forged.due.map Row.cells ++ [[""]] := by
  decide +kernel

end Dialogue.Memory
