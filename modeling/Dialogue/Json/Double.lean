/-! # Binary floating-point numbers

    A finite double is ± `mantissa` · 2^`exponent` / 2^1074, so every value is an exact ratio and
    every operation is one exact quotient rounded to the nearest double, ties to the even mantissa
    (`nearest`). A decimal is read with at most 64 bits of digits and one power of ten at a time; it
    is written with the fewest digits that read back as the same double (`shortest`). -/

namespace Dialogue.Json

/-- The numbers of 64 bits that are finite: a mantissa times a power of two. -/
structure Double where
  negative : Bool
  mantissa : Nat
  exponent : Nat
  deriving DecidableEq, Repr

namespace Double

/-- The smallest positive double is 1 / `unit`. -/
def unit : Nat := Nat.pow 2 1074

/-- `n / d` rounded to an integer, a half going to the even neighbour. -/
def roundHalfEven (n d : Nat) : Nat :=
  let q := n / d
  let r := n % d
  if 2 * r < d then q else if d < 2 * r then q + 1 else q + q % 2

/-- The positive double nearest to `num / den`, if the range reaches that far. -/
def nearest (num den : Nat) : Option Double :=
  let scaled := num * unit
  let e := (scaled / den).log2 + 1 - 53
  let m := roundHalfEven scaled (den * Nat.pow 2 e)
  let (m, e) := if m = Nat.pow 2 53 then (Nat.pow 2 52, e + 1) else (m, e)
  if e ≤ 2045 then some ⟨false, m, e⟩ else none

/-- Zero, of either sign. -/
def isZero (d : Double) : Bool := d.mantissa = 0

/-- The zero without a sign. -/
def zero : Double := ⟨false, 0, 0⟩

/-- The other sign. -/
def neg (d : Double) : Double := { d with negative := !d.negative }

/-- The magnitude as a multiple of 1 / `unit`. -/
def scaled (d : Double) : Nat := d.mantissa * Nat.pow 2 d.exponent

/-- The nearest number, if it is not too large. -/
def ofNat (n : Nat) : Option Double := nearest n 1

/-! ### Decimals -/

/-- The largest power of ten within the range. -/
def largestPower : Nat := 308

/-- The magnitude of `d` times the double nearest to 10^`k`. -/
def timesPower (d : Double) (k : Nat) : Option Double := do
  let p ← ofNat (Nat.pow 10 k)
  nearest (d.scaled * p.scaled) (unit * unit)

/-- The magnitude of `d` divided by the double nearest to 10^`k`. -/
def overPower (d : Double) (k : Nat) : Option Double := do
  let p ← ofNat (Nat.pow 10 k)
  nearest d.scaled p.scaled

/-- Divides by 10^`k`, by the largest power of ten as often as it takes; what has
    vanished stays zero. -/
def shrink (d : Double) (k : Nat) : Option Double :=
  if k ≤ largestPower then d.overPower k
  else if d.isZero then some d
  else do (← d.overPower largestPower).shrink (k - largestPower)
  termination_by k
  decreasing_by simp only [largestPower] at *; omega

/-- `digits` · 10^`power`, if the range reaches that far. -/
def ofDecimal (digits : Nat) (power : Int) : Option Double := do
  let d ← ofNat digits
  if power < 0 then d.shrink power.natAbs
  else if power.toNat ≤ largestPower then d.timesPower power.toNat
  else if d.isZero then some d else none

/-! ### Shortest digits -/

/-- Of the two multiples of 10^`s` around the magnitude, the nearer one that still rounds to it, as
    a multiple. The reals that round to `m` · 2^`e` reach half way to its neighbours, ends included
    iff `m` is even. All distances are taken times 4 · `unit`. -/
def onGrid (m e : Nat) (s : Int) : Option Nat :=
  let up := Nat.pow 2 e * (if s < 0 then Nat.pow 10 s.natAbs else 1)
  let grid := 4 * unit * (if s < 0 then 1 else Nat.pow 10 s.toNat)
  let low := (if m = Nat.pow 2 52 ∧ 0 < e then 4 * m - 1 else 4 * m - 2) * up
  let high := (4 * m + 2) * up
  let value := 4 * m * up
  let inside (c : Nat) : Bool :=
    if m % 2 = 0 then low ≤ c * grid ∧ c * grid ≤ high else low < c * grid ∧ c * grid < high
  let c := value / grid
  match inside c, inside (c + 1) with
  | false, false => none
  | true, false => some c
  | false, true => some (c + 1)
  | true, true =>
    let below := value - c * grid
    let above := (c + 1) * grid - value
    some (if below < above then c else if above < below then c + 1 else c + c % 2)

/-- The decimal exponent `k` with 10^`k` ≤ magnitude < 10^(`k` + 1). -/
def decimalExponent (d : Double) : Int :=
  if unit ≤ d.scaled then ((Nat.toDigits 10 (d.scaled / unit)).length : Int) - 1
  else -(((List.range 330).find? fun j => unit ≤ d.scaled * Nat.pow 10 j).getD 0 : Nat)

/-- Takes trailing zeros off `c` · 10^`s`. -/
def stripZeros (c : Nat) (s : Int) : Nat × Int :=
  if c ≠ 0 ∧ c % 10 = 0 then stripZeros (c / 10) (s + 1) else (c, s)
  termination_by c
  decreasing_by omega

/-- The fewest digits that read back as the magnitude, as an integer and a power of ten. -/
def shortest (d : Double) : Nat × Int :=
  let k := d.decimalExponent
  let hit := (List.range 17).findSome? fun (n : Nat) =>
    (onGrid d.mantissa d.exponent (k - n)).map (·, k - n)
  let (c, s) := hit.getD (0, 0)
  stripZeros c s

/-- Positional from 10^-5 up to below 10^16, always with a decimal; otherwise with a
    signed exponent. -/
def magnitudeText (d : Double) : List Char :=
  if d.isZero then "0.0".toList
  else
    let (c, s) := d.shortest
    let ds := Nat.toDigits 10 c
    let k : Int := s + ds.length - 1
    if k < -5 ∨ 15 < k then
      let sign := if k < 0 then '-' else '+'
      let fraction := if ds.length = 1 then [] else '.' :: ds.drop 1
      ds.take 1 ++ fraction ++ 'e' :: sign :: Nat.toDigits 10 k.natAbs
    else if k < 0 then '0' :: '.' :: List.replicate (k.natAbs - 1) '0' ++ ds
    else if 0 ≤ s then ds ++ List.replicate s.toNat '0' ++ ['.', '0']
    else ds.take (k.toNat + 1) ++ '.' :: ds.drop (k.toNat + 1)

/-- The number as it is printed. -/
def text (d : Double) : List Char := if d.negative then '-' :: d.magnitudeText else d.magnitudeText

end Double

/-- An integer is kept exactly; any other number is a double. -/
inductive Number where
  | int (n : Int)
  | double (d : Double)
  deriving DecidableEq, Repr

/-- An integer in decimal. -/
def intText : Int → List Char
  | .ofNat n => Nat.toDigits 10 n
  | .negSucc n => '-' :: Nat.toDigits 10 (n + 1)

/-- The number as it is printed. -/
def Number.text : Number → List Char
  | .int n => intText n
  | .double d => d.text

end Dialogue.Json
