import StructuredOutput.Number.Binary64

/-!
# Shortest decimals

The fewest decimal digits that read back as a given double-precision number, and the two
layouts in which they are written: positional, and with an exponent. A `DecimalStyle` says
which layout a format uses, and what it does with a number halfway between two decimals.
-/

namespace StructuredOutput

/-- A decimal `0.d₁d₂…dₙ · 10 ^ point`, by its digits and the place of its point. -/
structure Digits where
  digits : List Char
  point : Int

namespace Digits

/-- Positional notation, with at least one digit on either side of the point. -/
def positional (d : Digits) : String :=
  let zeros (n : Int) := List.replicate n.toNat '0'
  if d.point ≤ 0 then
    String.ofList ("0.".toList ++ zeros (-d.point) ++ d.digits)
  else if d.digits.length ≤ d.point then
    String.ofList (d.digits ++ zeros (d.point - d.digits.length) ++ ".0".toList)
  else
    String.ofList (d.digits.take d.point.toNat ++ '.' :: d.digits.drop d.point.toNat)

/-- One digit before the point, no point if no digit follows, and a signed exponent. -/
def scientific (d : Digits) : String :=
  let exponent := d.point - 1
  let mantissa := match d.digits with
    | first :: second :: rest => first :: '.' :: second :: rest
    | digits => digits
  String.ofList mantissa ++ (if exponent < 0 then "e-" else "e+")
    ++ toString exponent.natAbs

end Digits

/-! ## Halves -/

/-- Where a quotient goes that lies halfway between two whole numbers. -/
inductive Tie where
  | toEven
  | up
  deriving DecidableEq

/-- The quotient rounded to the nearest whole number. -/
def Tie.divide : Tie → Nat → Nat → Nat
  | toEven, num, den => Binary64.divideToEven num den
  | up, num, den => (2 * num + den) / (2 * den)

/-- How a format writes numbers. -/
structure DecimalStyle where
  tie : Tie
  layout : Digits → String

namespace Binary64

/-! ## Digits that read back -/

/-- The numbers that round to `x`, in units of a quarter of its last place: from `low` to
`high`, the ends included if the significand is even. -/
structure Neighbourhood where
  low : Nat
  centre : Nat
  high : Nat
  ends : Bool
  unit : Int

/-- The neighbourhood of a number other than zero. Below a power of two the numbers lie
twice as close, so the lower end is nearer there. -/
def neighbourhood (x : Binary64) : Neighbourhood :=
  let m := x.significand
  let below := if x.fraction.val = 0 && 1 < x.exponent.val then 1 else 2
  ⟨4 * m - below, 4 * m, 4 * m + 2, m % 2 == 0, x.scale - 2⟩

/-- The whole numbers `(a, b)` with `a / b = n · 2 ^ unit / 10 ^ place`. -/
def Neighbourhood.onGrid (h : Neighbourhood) (n : Nat) (place : Int) : Nat × Nat :=
  (n * Nat.pow 2 h.unit.toNat * Nat.pow 10 (-place).toNat,
    Nat.pow 2 (-h.unit).toNat * Nat.pow 10 place.toNat)

/-- Whether `n · 10 ^ place` lies in the neighbourhood. -/
def Neighbourhood.contains (h : Neighbourhood) (n : Nat) (place : Int) : Bool :=
  let (low, den) := h.onGrid h.low place
  let (high, _) := h.onGrid h.high place
  let point := n * den
  if h.ends then low ≤ point && point ≤ high else low < point && point < high

/-- The multiple of `10 ^ place` that reads back and lies nearest. -/
def Neighbourhood.nearest (h : Neighbourhood) (tie : Tie) (place : Int) : Option Nat :=
  let (num, den) := h.onGrid h.centre place
  let below := num / den
  match h.contains below place, h.contains (below + 1) place with
  | true, true => some (tie.divide num den)
  | true, false => some below
  | false, true => some (below + 1)
  | false, false => none

/-- The `e` with `10 ^ e ≤ num / den < 10 ^ (e + 1)`. -/
def decimalExponent (num den : Nat) : Int :=
  if den ≤ num then (Nat.toDigits 10 (num / den)).length - 1
  else
    let count := (Nat.toDigits 10 (den / num)).length
    if den ≤ num * Nat.pow 10 (count - 1) then 1 - (count : Int) else -(count : Int)

/-- The shortest decimal that reads back as the number, and of those the nearest. Seventeen
digits always suffice. -/
def toDigits (tie : Tie) (x : Binary64) : Digits :=
  let h := x.neighbourhood
  let (num, den) := h.onGrid h.centre 0
  let top := decimalExponent num den
  let found := (List.range 17).findSome? fun (k : Nat) =>
    (h.nearest tie (top - k)).map fun n => (n, top - (k : Int))
  let (n, place) := found.getD (num / den, 0)
  let digits := Nat.toDigits 10 n
  ⟨(digits.reverse.dropWhile (· == '0')).reverse, digits.length + place⟩

/-- The sign, and the magnitude in the given style; zero is `0.0`. -/
def write (style : DecimalStyle) (x : Binary64) : String :=
  (if x.negative then "-" else "")
    ++ (if x.isZero then "0.0" else style.layout (x.toDigits style.tie))

end Binary64

end StructuredOutput
