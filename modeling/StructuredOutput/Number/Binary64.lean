/-!
# Binary64

Finite double-precision numbers as exact data: a sign, an exponent field and a fraction
field. `ofDecimal` reads a decimal and rounds to the nearest number, a tie going to the
even neighbour; `ofDecimalInSteps` computes in double precision what a decimal denotes, and
so may miss it. All arithmetic is on natural numbers: an operation rounds its exact result,
once.
-/

namespace StructuredOutput

/-- A finite double-precision number. The exponent field `2047`, which marks infinities and
non-numbers, cannot occur. -/
structure Binary64 where
  negative : Bool
  exponent : Fin 2047
  fraction : Fin (Nat.pow 2 52)
  deriving DecidableEq

namespace Binary64

/-- The zero of the given sign. -/
def zero (negative : Bool) : Binary64 := ⟨negative, ⟨0, by decide⟩, ⟨0, by decide⟩⟩

/-- Whether the number is one of the two zeros. -/
def isZero (x : Binary64) : Bool := x.exponent.val == 0 && x.fraction.val == 0

/-- Whether two numbers are numerically equal: the two zeros are, and no other two that
differ. -/
def same (x y : Binary64) : Bool := x == y || (x.isZero && y.isZero)

/-- The whole number `m` of the magnitude `m · 2 ^ scale`. -/
def significand (x : Binary64) : Nat :=
  if x.exponent.val = 0 then x.fraction.val else Nat.pow 2 52 + x.fraction.val

/-- The power of two of the magnitude `significand · 2 ^ scale`. -/
def scale (x : Binary64) : Int := (max x.exponent.val 1 : Nat) - (1075 : Int)

/-- The quotient rounded to the nearest whole number, a tie going to the even one. -/
def divideToEven (num den : Nat) : Nat :=
  let quotient := num / den
  let twice := 2 * (num % den)
  if twice < den then quotient
  else if den < twice then quotient + 1
  else quotient + quotient % 2

/-- The ratio `num / (den · 2 ^ scale)`, as a pair of whole numbers. -/
def overPower (num den : Nat) (scale : Int) : Nat × Nat :=
  if 0 ≤ scale then (num, den * Nat.pow 2 scale.toNat)
  else (num * Nat.pow 2 (-scale).toNat, den)

/-- The number `significand · 2 ^ scale`, for a significand of 53 bits, or of fewer at the
least scale; `none` beyond the largest finite number. -/
def ofParts (negative : Bool) (significand : Nat) (scale : Int) : Option Binary64 :=
  let exponent := if significand < Nat.pow 2 52 then 0 else (scale + 1075).toNat
  let fraction := if significand < Nat.pow 2 52 then significand
    else significand - Nat.pow 2 52
  if h : exponent < 2047 ∧ fraction < Nat.pow 2 52 then
    some ⟨negative, ⟨exponent, h.1⟩, ⟨fraction, h.2⟩⟩
  else none

/-- The number nearest to `num / den`, a tie going to the even significand; `none` if that
lies beyond the largest finite number. -/
def ofRatio (negative : Bool) (num den : Nat) : Option Binary64 :=
  let guess := (num.log2 : Int) - den.log2 - 53
  let (n, d) := overPower num den guess
  let scale := max (if Nat.pow 2 53 ≤ n / d then guess + 1 else guess) (-1074)
  let (n, d) := overPower num den scale
  let significand := divideToEven n d
  if significand = Nat.pow 2 53 then ofParts negative (Nat.pow 2 52) (scale + 1)
  else ofParts negative significand scale

/-- The number nearest to `digits · 10 ^ exponent`; `none` if that lies beyond the largest
finite number. Exponents far outside the range are settled without computing the power. -/
def ofDecimal (negative : Bool) (digits : Nat) (exponent : Int) : Option Binary64 :=
  let magnitude := ((Nat.toDigits 10 digits).length : Int) + exponent
  if digits = 0 || magnitude < -330 then some (zero negative)
  else if 310 < magnitude then none
  else if 0 ≤ exponent then ofRatio negative (digits * Nat.pow 10 exponent.toNat) 1
  else ofRatio negative digits (Nat.pow 10 (-exponent).toNat)

/-! ## Products and quotients -/

/-- The magnitude, as a ratio of whole numbers. -/
def ratio (x : Binary64) : Nat × Nat :=
  (x.significand * Nat.pow 2 x.scale.toNat, Nat.pow 2 (-x.scale).toNat)

/-- The number nearest to the product; `none` if that lies beyond the largest finite
number. -/
def times (x y : Binary64) : Option Binary64 :=
  ofRatio (x.negative != y.negative) (x.ratio.1 * y.ratio.1) (x.ratio.2 * y.ratio.2)

/-- The number nearest to the quotient by a number other than zero; `none` if that lies
beyond the largest finite number. -/
def dividedBy (x y : Binary64) : Option Binary64 :=
  ofRatio (x.negative != y.negative) (x.ratio.1 * y.ratio.2) (x.ratio.2 * y.ratio.1)

/-! ## Powers of ten -/

/-- The number nearest to a power of ten; `none` from `10 ^ 309` on. -/
def tenTo? (power : Nat) : Option Binary64 := ofDecimal false 1 power

/-- The quotient by `10 ^ 308`, so many times, and then by another power of ten. Zero is
not divided any further. -/
def overTens (last : Nat) : Nat → Binary64 → Option Binary64
  | 0, x => do x.dividedBy (← tenTo? last)
  | count + 1, x =>
    if x.isZero then some x else do overTens last count (← x.dividedBy (← tenTo? 308))

/-- The number times a power of ten: one product, or as many quotients as it takes since
the powers end at `10 ^ 308`. -/
def timesTenTo (x : Binary64) : Int → Option Binary64
  | .ofNat power => if x.isZero then some x else do x.times (← tenTo? power)
  | .negSucc n => overTens (n % 308 + 1) (n / 308) x

/-- What `digits · 10 ^ exponent` comes to in double precision, where the digits are
rounded before the power of ten is applied; `none` beyond the largest finite number. -/
def ofDecimalInSteps (negative : Bool) (digits : Nat) (exponent : Int) :
    Option Binary64 := do
  (← ofRatio negative digits 1).timesTenTo exponent

end Binary64

end StructuredOutput
