import StructuredOutput.Text.Hexadecimal
import StructuredOutput.Toml.Value

/-!
# Numbers and dates in TOML

Readers for the values that begin with a digit or a sign. Each takes the longest beginning
of the text that has its form, and returns the value and what is left.
-/

namespace StructuredOutput.Toml

/-- A value and what is left behind it. -/
abbrev ValueStep := Option (Value × List Char)

/-! ## Digits -/

/-- The digits behind a first one. Single underscores may stand between digits. -/
def moreDigits (isDigit : Char → Bool) : List Char → Option (List Char × List Char)
  | [] => some ([], [])
  | c :: s =>
    if isDigit c then (moreDigits isDigit s).map fun (ds, rest) => (c :: ds, rest)
    else if c = '_' then
      match s with
      | [] => none
      | d :: s =>
        if isDigit d then (moreDigits isDigit s).map fun (ds, rest) => (d :: ds, rest)
        else none
    else some ([], c :: s)

/-- One digit or more. -/
def digits (isDigit : Char → Bool) : List Char → Option (List Char × List Char)
  | [] => none
  | c :: s =>
    if isDigit c then (moreDigits isDigit s).map fun (ds, rest) => (c :: ds, rest)
    else none

/-- The digits of a whole number; a leading zero stands alone. -/
def wholeDigits : List Char → Option (List Char × List Char)
  | '0' :: s => some (['0'], s)
  | s => digits Char.isDigit s

/-- The value of a digit, of any base up to sixteen. -/
def digitValue (c : Char) : Nat := (Text.hexDigit? c).getD 0

/-- The number that digits denote. -/
def numberOf (base : Nat) (ds : List Char) : Nat :=
  ds.foldl (fun n d => base * n + digitValue d) 0

/-! ## Integers -/

def isHexDigit (c : Char) : Bool := (Text.hexDigit? c).isSome

/-- The first whole number that does not fit in 64 bits, signed. -/
def signedLimit : Nat := Nat.pow 2 63

/-- An integer that fits in 64 bits, signed. -/
def integerOf (n : Int) (rest : List Char) : ValueStep :=
  if -(signedLimit : Int) ≤ n ∧ n < signedLimit then some (.integer n, rest) else none

/-- An integer in another base than ten, behind the mark of its base. -/
def readBased (base : Nat) (isDigit : Char → Bool) (s : List Char) : ValueStep := do
  let (ds, rest) ← digits isDigit s
  integerOf (numberOf base ds) rest

/-! ## Floating-point numbers -/

/-- The sign in front of a number: whether it is negative, and what is left. -/
def readSign : List Char → Bool × List Char
  | '-' :: s => (true, s)
  | '+' :: s => (false, s)
  | s => (false, s)

/-- The number `±significand · 10 ^ power`. Below the range it is an infinity, above it
there is none. -/
def realOf (negative : Bool) (significand : Nat) (power : Int) (rest : List Char) :
    ValueStep :=
  match Binary64.ofDecimal negative significand power with
  | some x => some (.real (.finite x), rest)
  | none => if negative then some (.real (.infinite true), rest) else none

/-- The exponent behind its mark. -/
def readExponent (s : List Char) : Option (Int × List Char) := do
  let (down, s) := readSign s
  let (ds, rest) ← digits Char.isDigit s
  let n : Int := numberOf 10 ds
  some (if down then -n else n, rest)

/-- What follows the whole part of a decimal number. -/
def readTail (negative : Bool) (whole : List Char) : List Char → ValueStep
  | '.' :: s => do
    let (fraction, rest) ← digits Char.isDigit s
    let significand := numberOf 10 (whole ++ fraction)
    let power := -(fraction.length : Int)
    match rest with
    | 'e' :: s | 'E' :: s => do
      let (exponent, rest) ← readExponent s
      realOf negative significand (power + exponent) rest
    | rest => realOf negative significand power rest
  | 'e' :: s | 'E' :: s => do
    let (exponent, rest) ← readExponent s
    realOf negative (numberOf 10 whole) exponent rest
  | s => integerOf (if negative then -(numberOf 10 whole : Int) else numberOf 10 whole) s

/-- A number. -/
def readNumber (s : List Char) : ValueStep :=
  match s with
  | '0' :: 'x' :: s => readBased 16 isHexDigit s
  | '0' :: 'o' :: s => readBased 8 (fun c => '0' ≤ c && c ≤ '7') s
  | '0' :: 'b' :: s => readBased 2 (fun c => c == '0' || c == '1') s
  | s =>
    let (negative, s) := readSign s
    match s with
    | 'i' :: 'n' :: 'f' :: rest => some (.real (.infinite negative), rest)
    | 'n' :: 'a' :: 'n' :: rest => some (.real .notANumber, rest)
    | s => do
      let (whole, rest) ← wholeDigits s
      readTail negative whole rest

/-! ## Dates and times -/

/-- What is left behind a number of exactly so many digits, if it lies in the range. -/
def readFixed (width low high : Nat) (s : List Char) : Option (Nat × List Char) :=
  let ds := s.take width
  let n := numberOf 10 ds
  if ds.length = width && ds.all Char.isDigit && low ≤ n && n ≤ high then
    some (n, s.drop width)
  else none

/-- What is left behind a certain character. -/
def readChar (c : Char) : List Char → Option (List Char)
  | [] => none
  | d :: s => if d = c then some s else none

/-- The number of days in a month. -/
def daysIn (year month : Nat) : Nat :=
  if month = 2 then
    if year % 4 = 0 && (year % 100 ≠ 0 || year % 400 = 0) then 29 else 28
  else if month = 4 || month = 6 || month = 9 || month = 11 then 30
  else 31

/-- What is left behind a date of the calendar. -/
def readDate (s : List Char) : Option (List Char) := do
  let (year, s) ← readFixed 4 0 9999 s
  let s ← readChar '-' s
  let (month, s) ← readFixed 2 1 12 s
  let s ← readChar '-' s
  let (_, s) ← readFixed 2 1 (daysIn year month) s
  some s

/-- What is left behind a time of day, which may have a fraction of a second. -/
def readTime (s : List Char) : Option (List Char) := do
  let (_, s) ← readFixed 2 0 23 s
  let s ← readChar ':' s
  let (_, s) ← readFixed 2 0 59 s
  let s ← readChar ':' s
  let (_, s) ← readFixed 2 0 60 s
  match s with
  | '.' :: t =>
    if (t.head?.any Char.isDigit) then some (t.dropWhile Char.isDigit) else some s
  | s => some s

/-- What is left behind an offset from universal time. -/
def readOffset : List Char → Option (List Char)
  | 'Z' :: s | 'z' :: s => some s
  | '+' :: s | '-' :: s => do
    let (_, s) ← readFixed 2 0 23 s
    let s ← readChar ':' s
    let (_, s) ← readFixed 2 0 59 s
    some s
  | _ => none

/-- What is left behind a date and whatever of a time follows it. -/
def readDateTime (s : List Char) : Option (List Char) := do
  let s ← readDate s
  match s with
  | 'T' :: t | 't' :: t | ' ' :: t =>
    match readTime t with
    | some t => some ((readOffset t).getD t)
    | none => some s
  | s => some s

/-- A date, a time or both. -/
def readMoment (s : List Char) : ValueStep := do
  let rest ← readDateTime s <|> readTime s
  some (.moment (String.ofList (s.take (s.length - rest.length))), rest)

/-- A date or a number. -/
def readScalar (s : List Char) : ValueStep := readMoment s <|> readNumber s

end StructuredOutput.Toml
