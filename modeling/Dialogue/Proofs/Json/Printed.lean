import Mathlib.Tactic.IntervalCases
import Dialogue.Json.Reader
import Dialogue.Proofs.Text.Digits

/-! # Printed values are read back

    A value prints without blanks, so the reader meets nothing but the value: whatever stands behind
    its text is left over (`readValue_chars`). Behind a number that may be nothing which would go on
    with it (`Ends`). Integers that fit 64 bits read back (`reads_int`). -/

namespace Dialogue.Json

open Text

/-! ### Digits -/

/-- Nothing that would go on with a number: no digit, no point, no exponent. -/
def Ends (cs : List Char) : Prop := ∀ c ∈ cs.head?, c.isDigit = false ∧ c ≠ '.' ∧ c ≠ 'e' ∧ c ≠ 'E'

theorem ends_nil : Ends [] := by simp [Ends]

theorem Ends.not_isDigit {cs : List Char} (h : Ends cs) : ∀ c ∈ cs.head?, c.isDigit = false := by
  intro c hc
  exact (h c hc).1

theorem readDigits_append {ds rest : List Char} (hne : ds ≠ []) (hds : ∀ c ∈ ds, c.isDigit)
    (hrest : ∀ c ∈ rest.head?, c.isDigit = false) : readDigits (ds ++ rest) = some (ds, rest) := by
  rw [readDigits, takeWhile_digits hds hrest, dropWhile_digits hds hrest]
  cases ds with
  | nil => exact absurd rfl hne
  | cons d ds => rfl

/-- The digits of a positive number do not begin with a zero. -/
theorem head?_toDigits_ne_zero (n : Nat) : 0 < n → (Nat.toDigits 10 n).head? ≠ some '0' := by
  induction n using Nat.strongRecOn with
  | _ n ih =>
    intro hn
    rcases Nat.lt_or_ge n 10 with hlt | hge
    · rw [Nat.toDigits_of_lt_base hlt]
      interval_cases n <;> decide
    · rw [Nat.toDigits_of_base_le (by decide) hge, List.head?_append]
      have h := ih (n / 10) (by omega) (by omega)
      cases hd : (Nat.toDigits 10 (n / 10)).head? with
      | none => exact absurd (List.head?_eq_none_iff.1 hd) Nat.toDigits_ne_nil
      | some c => simpa [hd] using h

theorem readWhole_toDigits (n : Nat) {rest : List Char}
    (hrest : ∀ c ∈ rest.head?, c.isDigit = false) :
    readWhole (Nat.toDigits 10 n ++ rest) = some (Nat.toDigits 10 n, rest) := by
  rw [readWhole, readDigits_append Nat.toDigits_ne_nil (isDigit_toDigits n) hrest]
  rcases Nat.eq_zero_or_pos n with rfl | hn
  · rfl
  · have h := head?_toDigits_ne_zero n hn
    split
    · rename_i hd
      simp_all
    · rfl

/-! ### Numbers -/

theorem readFraction_ends {rest : List Char} (h : Ends rest) :
    readFraction rest = some (none, rest) := by
  cases rest with
  | nil => rfl
  | cons c rest =>
    have hc : c ≠ '.' := (h c (by simp)).2.1
    simp [readFraction, hc]

theorem readExponent_ends {rest : List Char} (h : Ends rest) :
    readExponent rest = some (none, rest) := by
  cases rest with
  | nil => rfl
  | cons c rest =>
    have hc := (h c (by simp)).2.2
    simp [readExponent, hc.1, hc.2]

/-- How the text of a number begins. -/
def BeginsNumber (c : Char) : Prop := c.isDigit ∨ c = '-'

/-- The text of the number is that of a number and reads back as the number. -/
structure Number.Reads (n : Number) : Prop where
  begins : ∃ c cs, n.text = c :: cs ∧ BeginsNumber c
  reads : ∀ rest, Ends rest → ∃ x : Numeral, readNumeral (n.text ++ rest) = some (x, rest) ∧
      x.number? = some n

theorem readNumeral_toDigits (n : Nat) {rest : List Char} (h : Ends rest) :
    readNumeral (Nat.toDigits 10 n ++ rest) = some (⟨false, Nat.toDigits 10 n, none, none⟩,
        rest) := by
  have hdigit := h.not_isDigit
  obtain ⟨c, cs, hcs⟩ := List.exists_cons_of_ne_nil (Nat.toDigits_ne_nil (n := n) (b := 10))
  have hc : c ≠ '-' := by
    rintro rfl
    have := isDigit_toDigits n '-' (by simp [hcs])
    simp at this
  rw [readNumeral]
  · simp [readWhole_toDigits n hdigit, readFraction_ends h, readExponent_ends h]
  · intro cs' heq
    rw [hcs, List.cons_append, List.cons.injEq] at heq
    exact hc heq.1

theorem readNumeral_negative (n : Nat) {rest : List Char} (h : Ends rest) :
    readNumeral ('-' :: Nat.toDigits 10 n ++ rest) = some (⟨true, Nat.toDigits 10 n, none, none⟩,
        rest) := by
  have hdigit := h.not_isDigit
  simp [readNumeral, readWhole_toDigits n hdigit, readFraction_ends h, readExponent_ends h]

/-- Integers of 64 bits, with a sign or without, read back. -/
theorem reads_int {n : Int} (hlow : -(UInt64.size / 2 : Nat) ≤ n) (hhigh : n < UInt64.size) :
    (Number.int n).Reads := by
  cases n with
  | ofNat n =>
    obtain ⟨c, cs, hcs⟩ := List.exists_cons_of_ne_nil (Nat.toDigits_ne_nil (n := n) (b := 10))
    refine ⟨⟨c, cs, hcs, .inl (isDigit_toDigits n c (by simp [hcs]))⟩, ?_⟩
    intro rest h
    refine ⟨_, readNumeral_toDigits n h, ?_⟩
    have hn : n < UInt64.size := by simpa using hhigh
    simp [Numeral.number?, digitsNat, Nat.ofDigitChars_ten_toDigits, hn]
  | negSucc n =>
    refine ⟨⟨'-', _, rfl, .inr rfl⟩, ?_⟩
    intro rest h
    refine ⟨_, readNumeral_negative (n + 1) h, ?_⟩
    have hn : n + 1 ≤ UInt64.size / 2 := by omega
    simp [Numeral.number?, digitsNat, Nat.ofDigitChars_ten_toDigits, hn, Int.negSucc_eq]

/-! ### Strings -/

/-- The digits of an escaped control: two zeros and two that name the control. -/
theorem unicodeEscape_control : ∀ n < 32, unicodeEscape (Char.ofNat n) =
    ['\\', 'u', '0', '0', Nat.digitChar (n / 16), Nat.digitChar (n % 16)] := by
  decide

theorem hexUnit?_control : ∀ n < 32,
    hexUnit? '0' '0' (Nat.digitChar (n / 16)) (Nat.digitChar (n % 16)) = some n := by
  decide

theorem readPieces_unicodeEscape {c : Char} (hc : c < ' ') (cs : List Char) :
    readPieces (unicodeEscape c ++ cs) = (readPieces cs).map fun r => (.char c :: r.1, r.2) := by
  have hn : c.toNat < 32 := hc
  have hunit : Piece.ofUnit c.toNat = .char c := by
    rw [Piece.ofUnit, if_neg (by omega), Char.ofNat_toNat]
  rw [← Char.ofNat_toNat c, unicodeEscape_control _ hn, Char.ofNat_toNat]
  simp only [List.cons_append, List.nil_append, readPieces, hexUnit?_control _ hn]
  cases readPieces cs <;> simp [hunit]

/-- An escape of one character. -/
theorem readPieces_escape {e c : Char} (he : e ≠ 'u') (h : unescape? e = some c) (cs : List Char) :
    readPieces ('\\' :: e :: cs) = (readPieces cs).map fun r => (.char c :: r.1, r.2) := by
  rw [readPieces]
  · rw [h]
    cases readPieces cs <;> rfl
  · simp [he]

/-- A printed character reads back as the character. -/
theorem readPieces_escapeChar (c : Char) (cs : List Char) :
    readPieces (escapeChar c ++ cs) = (readPieces cs).map fun r => (.char c :: r.1, r.2) := by
  unfold escapeChar
  split
  -- the last case: no escape of its own, so a control character or itself
  case h_8 hquote hslash _ _ _ _ _ =>
    split
    · rename_i hlt
      exact readPieces_unicodeEscape hlt cs
    · rename_i hlt
      rw [List.singleton_append, readPieces]
      · rw [if_neg (not_or.2 ⟨hlt, hslash⟩)]
        cases readPieces cs <;> rfl
      all_goals simp_all
  all_goals exact readPieces_escape (by decide) rfl cs

theorem readPieces_flatMap (s rest : List Char) :
    readPieces (s.flatMap escapeChar ++ '"' :: rest) = some (s.map .char, rest) := by
  induction s with
  | nil => simp [readPieces]
  | cons c s ih =>
    rw [List.flatMap_cons, List.append_assoc, readPieces_escapeChar, ih]
    rfl

theorem pieceChars?_char (s : List Char) : pieceChars? (s.map .char) = some s := by
  induction s with
  | nil => rfl
  | cons c s ih => simp [pieceChars?, ih]

/-- A printed string reads back as the string, its opening quote taken away. -/
theorem readString_quote (s : String) (rest : List Char) :
    readString (s.toList.flatMap escapeChar ++ '"' :: rest) = some (some s, rest) := by
  simp [readString, readPieces_flatMap, pieceChars?_char]

theorem readKey_quote (k : String) (rest : List Char) :
    readKey (quote k ++ ':' :: rest) = some (some k, rest) := by
  have hquote : skipBlanks (quote k ++ ':' :: rest) =
      '"' :: (k.toList.flatMap escapeChar ++ '"' :: (':' :: rest)) := by
    simp [quote, skipBlanks, isBlank]
  have hcolon : skipBlanks (':' :: rest) = ':' :: rest := by simp [skipBlanks, isBlank]
  simp only [readKey, hquote, readString_quote, Option.bind_eq_bind, Option.bind_some, hcolon]

/-! ### Values -/

mutual

/-- All numbers in the value read back. -/
def Value.Reads : Value → Prop
  | .number n => n.Reads
  | .array vs => ItemsRead vs
  | .object ms => MembersRead ms
  | .null | .bool _ | .string _ => True

/-- Every item is read back. -/
def ItemsRead : List Value → Prop
  | [] => True
  | v :: vs => v.Reads ∧ ItemsRead vs

/-- Every member is read back. -/
def MembersRead : List (String × Value) → Prop
  | [] => True
  | (_, v) :: ms => v.Reads ∧ MembersRead ms

end

theorem itemsRead_iff (vs : List Value) : ItemsRead vs ↔ ∀ v ∈ vs, v.Reads := by
  induction vs with
  | nil => simp [ItemsRead]
  | cons v vs ih => simp [ItemsRead, ih]

theorem skipBlanks_cons {c : Char} (h : isBlank c = false) (cs : List Char) :
    skipBlanks (c :: cs) = c :: cs := by
  simp [skipBlanks, h]

theorem BeginsNumber.cases {c : Char} (h : BeginsNumber c) :
    isBlank c = false ∧ c ≠ ']' ∧ c ≠ 'n' ∧ c ≠ 't' ∧ c ≠ 'f' ∧ c ≠ '"' ∧ c ≠ '[' ∧ c ≠ '\x7b' := by
  rcases h with h | rfl
  · refine ⟨?_, ?_, ?_, ?_, ?_, ?_, ?_, ?_⟩
    · by_contra hb
      simp only [isBlank, Bool.not_eq_false, Bool.or_eq_true, decide_eq_true_eq] at hb
      rcases hb with ((rfl | rfl) | rfl) | rfl <;> simp at h
    all_goals
      rintro rfl
      simp at h
  · decide

/-- The text of a value begins with the value and not with the end of an array. -/
theorem Value.begins : ∀ v : Value, v.Reads → ∃ c cs, v.chars = c :: cs ∧
    isBlank c = false ∧ c ≠ ']'
  | .null, _ | .bool true, _ | .bool false, _ => ⟨_, _, rfl, by decide, by decide⟩
  | .string s, _ =>
    ⟨'"', s.toList.flatMap escapeChar ++ ['"'], by simp [Value.chars, quote], by decide, by decide⟩
  | .array [], _ => ⟨'[', _, rfl, by decide, by decide⟩
  | .array (_ :: _), _ => ⟨'[', _, by rw [Value.chars], by decide, by decide⟩
  | .object [], _ | .object ((_, _) :: _), _ =>
    ⟨'\x7b', _, by rw [Value.chars], by decide, by decide⟩
  | .number n, h => by
    obtain ⟨c, cs, hcs, hc⟩ := Number.Reads.begins (by simpa [Value.Reads] using h)
    exact ⟨c, cs, by simp [Value.chars, hcs], hc.cases.1, hc.cases.2.1⟩

theorem ends_itemChars (vs : List Value) (rest : List Char) : Ends (itemChars vs ++ rest) := by
  cases vs <;> simp [itemChars, Ends]

theorem ends_memberChars (ms : List (String × Value)) (rest : List Char) :
    Ends (memberChars ms ++ rest) := by
  cases ms <;> simp [memberChars, Ends]

theorem readValue_number {n : Number} (h : n.Reads) (fuel : Nat) {rest : List Char}
    (hrest : Ends rest) :
    readValue (fuel + 1) (n.text ++ rest) = some (.number (some n), rest) := by
  obtain ⟨x, hread, hx⟩ := h.reads rest hrest
  obtain ⟨c, cs, hcs, hc⟩ := h.begins
  obtain ⟨hblank, -, hn, ht, hf, hquote, harray, hobject⟩ := hc.cases
  rw [hcs, List.cons_append] at hread ⊢
  rw [readValue, skipBlanks_cons hblank]
  split
  all_goals simp_all

/-- A value is not printed as nothing, so it is not read without fuel. -/
theorem Value.length_chars_pos {v : Value} (hv : v.Reads) : 0 < v.chars.length := by
  obtain ⟨c, cs, hcs, -⟩ := v.begins hv
  simp [hcs]

mutual

/-- Printing and reading a value leaves the value, and what stands behind it. The induction is on
    the fuel, of which every character brings two. -/
theorem readValue_chars : ∀ (fuel : Nat) (v : Value) (rest : List Char), v.Reads → Ends rest →
    2 * v.chars.length ≤ fuel → readValue fuel (v.chars ++ rest) = some (v.written, rest)
  | 0, v, _, hv, _, hfuel => absurd (Value.length_chars_pos hv) (by omega)
  | _ + 1, .null, _, _, _, _ | _ + 1, .bool true, _, _, _, _ | _ + 1, .bool false, _, _, _, _
  | _ + 1, .array [], _, _, _, _ | _ + 1, .object [], _, _, _, _ => by
    simp [readValue, Value.chars, skipBlanks, isBlank, Value.written, itemsWritten, membersWritten]
  | fuel + 1, .number n, rest, hv, hrest, _ => by
    rw [Value.Reads] at hv
    rw [Value.chars, Value.written, readValue_number hv fuel hrest]
  | _ + 1, .string s, _, _, _, _ => by
    simp [readValue, Value.chars, quote, skipBlanks, isBlank, Value.written, readString_quote]
  | fuel + 1, .array (w :: ws), rest, hv, _, hfuel => by
    rw [Value.Reads, ItemsRead] at hv
    have hitems :=
      readItems_chars fuel w ws rest hv.1 hv.2 (by simp [Value.chars] at hfuel ⊢; omega)
    -- an item never begins with the bracket that would close the list
    obtain ⟨c, cs, hcs, hblank, hclose⟩ := w.begins hv.1
    simp only [Value.chars, List.cons_append, List.append_assoc]
    rw [readValue, skipBlanks_cons (by decide)]
    simp only [hcs, List.cons_append] at hitems ⊢
    rw [skipBlanks_cons hblank]
    split
    · simp_all
    · simp [hitems, Value.written, itemsWritten]
  | fuel + 1, .object ((k, w) :: ms), rest, hv, _, hfuel => by
    rw [Value.Reads, MembersRead] at hv
    have hmembers :=
      readMembers_chars fuel k w ms rest hv.1 hv.2 (by simp [Value.chars] at hfuel ⊢; omega)
    simp only [Value.chars, List.cons_append, List.append_assoc]
    rw [readValue, skipBlanks_cons (by decide)]
    simp only [quote, List.cons_append] at hmembers ⊢
    rw [skipBlanks_cons (by decide)]
    split
    · simp_all
    · rw [hmembers]
      simp [Value.written, membersWritten]

theorem readItems_chars : ∀ (fuel : Nat) (v : Value) (vs : List Value) (rest : List Char), v.Reads →
    ItemsRead vs → 2 * (v.chars ++ itemChars vs).length ≤ fuel →
    readItems fuel (v.chars ++ (itemChars vs ++ rest)) = some (v.written :: itemsWritten vs, rest)
  | 0, v, _, _, hv, _, hfuel => absurd (Value.length_chars_pos hv) (by simp at hfuel; simp [hfuel])
  | fuel + 1, v, [], rest, hv, _, hfuel => by
    have hfirst :=
      readValue_chars fuel v _ hv (ends_itemChars [] rest) (by simp [itemChars] at hfuel; omega)
    rw [readItems, hfirst]
    simp [itemChars, skipBlanks, isBlank, itemsWritten]
  | fuel + 1, v, w :: ws, rest, hv, hvs, hfuel => by
    rw [ItemsRead] at hvs
    have hfirst := readValue_chars fuel v _ hv (ends_itemChars (w :: ws) rest)
      (by simp [itemChars] at hfuel; omega)
    have hlater :=
      readItems_chars fuel w ws rest hvs.1 hvs.2 (by simp [itemChars] at hfuel ⊢; omega)
    rw [readItems, hfirst]
    simp [itemChars, skipBlanks, isBlank, itemsWritten, hlater]

theorem readMembers_chars : ∀ (fuel : Nat) (k : String) (v : Value) (ms : List (String × Value))
    (rest : List Char), v.Reads → MembersRead ms →
    2 * (quote k ++ ':' :: (v.chars ++ memberChars ms)).length ≤ fuel →
    readMembers fuel (quote k ++ ':' :: (v.chars ++ (memberChars ms ++ rest))) =
      some ((some k, v.written) :: membersWritten ms, rest)
  | 0, _, _, _, _, _, _, hfuel => by simp at hfuel
  | fuel + 1, k, v, [], rest, hv, _, hfuel => by
    have hfirst := readValue_chars fuel v _ hv (ends_memberChars [] rest)
      (by simp [memberChars] at hfuel; omega)
    rw [readMembers, readKey_quote]
    simp only [Option.bind_eq_bind, Option.bind_some, hfirst]
    simp [memberChars, skipBlanks, isBlank, membersWritten]
  | fuel + 1, k, v, (k', w) :: ms, rest, hv, hms, hfuel => by
    rw [MembersRead] at hms
    have hfirst := readValue_chars fuel v _ hv (ends_memberChars ((k', w) :: ms) rest)
      (by simp [memberChars] at hfuel; omega)
    have hlater :=
      readMembers_chars fuel k' w ms rest hms.1 hms.2 (by simp [memberChars] at hfuel ⊢; omega)
    rw [readMembers, readKey_quote]
    simp only [Option.bind_eq_bind, Option.bind_some, hfirst]
    simp [memberChars, skipBlanks, isBlank, membersWritten, hlater]

end

/-- The text of a value reads back as the value. -/
theorem Written.ofText?_text {v : Value} (hv : v.Reads) :
    Written.ofText? v.text = some v.written := by
  have h := readValue_chars (2 * v.chars.length + 2) v [] hv ends_nil (by omega)
  rw [List.append_nil] at h
  rw [Written.ofText?, Value.text, String.toList_ofList, Written.ofChars?, h]
  rfl

end Dialogue.Json
