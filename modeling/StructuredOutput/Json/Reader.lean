import StructuredOutput.Json.Value
import StructuredOutput.Text.Bytes
import StructuredOutput.Text.Hexadecimal

/-!
# Reading JSON

A strict reader. Every step takes what is left of the text and returns what it leaves; a
fault remembers how many bytes were left where it was noticed, from which its line and
column follow.

Nesting is limited: `readValue` descends into at most `depth` brackets, so the recursion is
on that number. A list of items is read by a loop of its own, which ends since an item
takes at least one character.
-/

namespace StructuredOutput.Json

open StructuredOutput.Text (byteLength hexadecimal? Position)

/-- What can be wrong with a text. -/
inductive Cause where
  | endInValue
  | endInString
  | endInList
  | endInObject
  | trailingComma
  | expectedItemEnd
  | expectedMemberEnd
  | expectedColon
  | nameNotString
  | expectedValue
  | expectedWord
  | invalidNumber
  | numberOutOfRange
  | invalidEscape
  | unfinishedPair
  | loneSurrogate
  | controlCharacter
  | trailingCharacters
  | tooDeep
  deriving DecidableEq

def Cause.message : Cause → String
  | endInValue => "EOF while parsing a value"
  | endInString => "EOF while parsing a string"
  | endInList => "EOF while parsing a list"
  | endInObject => "EOF while parsing an object"
  | trailingComma => "trailing comma"
  | expectedItemEnd => "expected `,` or `]`"
  | expectedMemberEnd => "expected `,` or `\x7d`"
  | expectedColon => "expected `:`"
  | nameNotString => "key must be a string"
  | expectedValue => "expected value"
  | expectedWord => "expected ident"
  | invalidNumber => "invalid number"
  | numberOutOfRange => "number out of range"
  | invalidEscape => "invalid escape"
  | unfinishedPair => "unexpected end of hex escape"
  | loneSurrogate => "lone leading surrogate in hex escape"
  | controlCharacter => "control character (\\u0000-\\u001F) found while parsing a string"
  | trailingCharacters => "trailing characters"
  | tooDeep => "recursion limit exceeded"

/-- A fault, and the number of bytes left behind the place where it was noticed. -/
structure Fault where
  cause : Cause
  left : Nat
  deriving DecidableEq

/-- The text ends too early. -/
def Fault.atEnd (cause : Cause) : Fault := ⟨cause, 0⟩

/-- The first byte of `rest` is wrong, or missing. -/
def Fault.at (cause : Cause) (rest : List Char) : Fault := ⟨cause, byteLength rest - 1⟩

/-- What stands directly before `rest` is wrong. -/
def Fault.before (cause : Cause) (rest : List Char) : Fault := ⟨cause, byteLength rest⟩

/-- A step of the reader: a result and the text it leaves, or a fault. -/
abbrev Step (α : Type) := List Char → Except Fault (α × List Char)

/-! ## Blanks, words and numbers -/

def isBlank (c : Char) : Bool := c == ' ' || c == '\t' || c == '\n' || c == '\r'

def skipBlank (s : List Char) : List Char := s.dropWhile isBlank

/-- Reads the rest of a literal word. -/
def readWord (value : Value) : List Char → Step Value
  | [], s => .ok (value, s)
  | _ :: _, [] => .error (.atEnd .endInValue)
  | w :: word, c :: s =>
    if c = w then readWord value word s else .error (.at .expectedWord (c :: s))

/-- The number that decimal digits denote, continuing from `start`. -/
def decimal (start : Nat) (digits : List Char) : Nat :=
  digits.foldl (fun n d => 10 * n + (d.toNat - '0'.toNat)) start

/-- The largest exponent that is read digit by digit. -/
def exponentLimit : Nat := Nat.pow 2 31 - 1

/-- The first whole number that does not fit in 64 bits, unsigned. -/
def wordLimit : Nat := Nat.pow 2 64

/-- Continues a number with digits as long as it fits in 64 bits: the number, and the
digits that are left. -/
def takeDigits (start : Nat) : List Char → Nat × List Char
  | [] => (start, [])
  | d :: rest =>
    let n := decimal start [d]
    if n < wordLimit then takeDigits n rest else (start, d :: rest)

/-- How many digits follow the one that takes the number beyond the limit. -/
def digitsBeyond (limit start : Nat) : List Char → Nat
  | [] => 0
  | d :: rest =>
    let n := decimal start [d]
    if limit < n then rest.length else digitsBeyond limit n rest

/-- A number with a fraction or an exponent: its significand, and the power of ten it is
taken with. It is computed in double precision, so that it may miss the nearest number. -/
def realOf (negative : Bool) (significand : Nat) (power : Int) (rest : List Char) :
    Except Fault (Value × List Char) :=
  match Binary64.ofDecimalInSteps negative significand power with
  | some x => .ok (.number (.real x), rest)
  | none => .error (.before .numberOutOfRange rest)

/-- A number with no fraction and no exponent. It is a whole number if it fits in 64 bits,
signed or unsigned; negative zero does not. Of a longer one the digits beyond count as a
power of ten. -/
def wholeOf (negative : Bool) (n beyond : Nat) (rest : List Char) :
    Except Fault (Value × List Char) :=
  if beyond ≠ 0 then realOf negative n beyond rest
  else if negative then
    if n = 0 || Nat.pow 2 63 < n then realOf negative n 0 rest
    else .ok (.number (.integer (-n)), rest)
  else .ok (.number (.integer n), rest)

/-- The part of a number behind the `e`. A run of digits beyond the limit makes the number
zero, or out of range. -/
def readExponent (negative : Bool) (significand : Nat) (power : Int) (s : List Char) :
    Except Fault (Value × List Char) :=
  let (down, s) := match s with
    | '+' :: s => (false, s)
    | '-' :: s => (true, s)
    | s => (false, s)
  let digits := s.takeWhile Char.isDigit
  let rest := s.dropWhile Char.isDigit
  let exponent := decimal 0 digits
  if digits.isEmpty then
    .error (if s.isEmpty then .atEnd .endInValue else .at .invalidNumber s)
  else if exponent ≤ exponentLimit then
    realOf negative significand (if down then power - exponent else power + exponent) rest
  else if significand = 0 || down then
    realOf negative 0 0 rest
  else
    .error ⟨.numberOutOfRange, byteLength rest + digitsBeyond exponentLimit 0 digits⟩

/-- The part of a number behind its whole part, which is given by the number that fits in
64 bits and the count of digits beyond. Digits of the fraction are taken as long as the
number goes on to fit, and dropped from the first that does not. -/
def readFraction (negative : Bool) (whole beyond : Nat) (s : List Char) :
    Except Fault (Value × List Char) :=
  match s with
  | '.' :: s =>
    let digits := s.takeWhile Char.isDigit
    let rest := s.dropWhile Char.isDigit
    let (significand, dropped) := takeDigits whole digits
    let power := (beyond + dropped.length : Int) - digits.length
    if digits.isEmpty then
      .error (if s.isEmpty then .atEnd .endInValue else .at .invalidNumber s)
    else match rest with
      | 'e' :: rest | 'E' :: rest => readExponent negative significand power rest
      | rest => realOf negative significand power rest
  | 'e' :: s | 'E' :: s => readExponent negative whole beyond s
  | s => wholeOf negative whole beyond s

/-- Reads a number behind its sign. A leading zero stands alone. -/
def readNumber (negative : Bool) (s : List Char) : Except Fault (Value × List Char) :=
  match s with
  | [] => .error (.atEnd .endInValue)
  | c :: rest =>
    if !c.isDigit then .error (.at .invalidNumber s)
    else if c = '0' then
      if (rest.head?.any Char.isDigit) then .error (.at .invalidNumber rest)
      else readFraction negative 0 0 rest
    else
      let (whole, beyond) := takeDigits 0 (s.takeWhile Char.isDigit)
      readFraction negative whole beyond.length (s.dropWhile Char.isDigit)

/-! ## Strings -/

/-- The character that a one-letter escape stands for. -/
def escapeOf? : Char → Option Char
  | '"' => some '"'
  | '\\' => some '\\'
  | '/' => some '/'
  | 'b' => some '\x08'
  | 'f' => some '\x0c'
  | 'n' => some '\n'
  | 'r' => some '\r'
  | 't' => some '\t'
  | _ => none

/-- Why no four hexadecimal digits can be read: the text ends, or four bytes are something
else. -/
def Fault.ofHex (rest : List Char) : Fault :=
  if byteLength rest < 4 then .atEnd .endInString
  else ⟨.invalidEscape, byteLength rest - 4⟩

/-- Puts a character before the text that a step has read. -/
def prepend (c : Char) (r : Except Fault (List Char × List Char)) :
    Except Fault (List Char × List Char) :=
  r.map fun (text, rest) => (c :: text, rest)

/-- Reads a string behind its opening quote. Two escaped surrogates make one character; a
surrogate without its partner is refused. -/
def readString : Step (List Char)
  | [] => .error (.atEnd .endInString)
  | c :: s =>
    if c = '"' then .ok ([], s)
    else if c = '\\' then
      match s with
      | [] => .error (.atEnd .endInString)
      | e :: s =>
        match escapeOf? e with
        | some c => prepend c (readString s)
        | none =>
          if e ≠ 'u' then .error (.at .invalidEscape (e :: s))
          else match s with
            | a :: b :: c :: d :: s' =>
              match hexadecimal? [a, b, c, d] with
              | none => .error (.ofHex s)
              | some unit =>
                if 0xDC00 ≤ unit ∧ unit ≤ 0xDFFF then .error (.before .loneSurrogate s')
                else if unit < 0xD800 ∨ 0xDBFF < unit then
                  prepend (Char.ofNat unit) (readString s')
                else match s' with
                  | [] => .error (.atEnd .endInString)
                  | '\\' :: [] => .error (.atEnd .endInString)
                  | '\\' :: 'u' :: t =>
                    match t with
                    | a :: b :: c :: d :: t' =>
                      match hexadecimal? [a, b, c, d] with
                      | none => .error (.ofHex t)
                      | some low =>
                        if low < 0xDC00 ∨ 0xDFFF < low then
                          .error (.before .loneSurrogate t')
                        else
                          prepend
                            (Char.ofNat
                              (0x10000 + (unit - 0xD800) * 0x400 + (low - 0xDC00)))
                            (readString t')
                    | _ => .error (.ofHex t)
                  | '\\' :: t => .error (.at .unfinishedPair t)
                  | t => .error (.at .unfinishedPair t)
            | _ => .error (.ofHex s)
    else if c < ' ' then .error (.before .controlCharacter s)
    else prepend c (readString s)

/-! ## Lists -/

/-- Reads items, each by `item`, up to the closing bracket. The count bounds the number of
items; as an item takes at least one character, the length of the text will do. -/
def readItems (item : Step α) : Nat → Step (List α)
  | 0, _ => .error (.atEnd .endInList)
  | count + 1, s => do
    let (first, s) ← item s
    match skipBlank s with
    | [] => .error (.atEnd .endInList)
    | ']' :: s => .ok ([first], s)
    | ',' :: s =>
      match skipBlank s with
      | [] => .error (.atEnd .endInValue)
      | ']' :: s => .error (.at .trailingComma (']' :: s))
      | s => do
        let (others, s) ← readItems item count s
        .ok (first :: others, s)
    | s => .error (.at .expectedItemEnd s)

/-- Reads a list behind its opening bracket. -/
def readList (item : Step α) : Step (List α) := fun s =>
  match skipBlank s with
  | [] => .error (.atEnd .endInList)
  | ']' :: s => .ok ([], s)
  | s => readItems item s.length s

/-! ## Objects -/

/-- Reads a name, a colon and a value. -/
def readMember (value : Step Value) : Step (String × Value) := fun s =>
  match s with
  | '"' :: s => do
    let (name, s) ← readString s
    match skipBlank s with
    | [] => .error (.atEnd .endInObject)
    | ':' :: s => do
      let (v, s) ← value s
      .ok ((String.ofList name, v), s)
    | s => .error (.at .expectedColon s)
  | s => .error (.at .nameNotString s)

/-- Reads members up to the closing brace, as `readItems` does. -/
def readMembers (value : Step Value) : Nat → Step (List (String × Value))
  | 0, _ => .error (.atEnd .endInObject)
  | count + 1, s => do
    let (first, s) ← readMember value s
    match skipBlank s with
    | [] => .error (.atEnd .endInObject)
    | '}' :: s => .ok ([first], s)
    | ',' :: s =>
      match skipBlank s with
      | [] => .error (.atEnd .endInValue)
      | '}' :: s => .error (.at .trailingComma ('}' :: s))
      | s => do
        let (others, s) ← readMembers value count s
        .ok (first :: others, s)
    | s => .error (.at .expectedMemberEnd s)

/-- Reads an object behind its opening brace. A repeated name keeps its first place and
takes its last value. -/
def readObject (value : Step Value) : Step (Entries Value) := fun s =>
  match skipBlank s with
  | [] => .error (.atEnd .endInObject)
  | '}' :: s => .ok ([], s)
  | s => do
    let (members, s) ← readMembers value s.length s
    .ok (Entries.collect members, s)

/-! ## Values -/

/-- Reads a value with at most `depth` brackets around its innermost part. -/
def readValue : Nat → Step Value
  | depth, s =>
    match skipBlank s with
    | [] => .error (.atEnd .endInValue)
    | c :: s =>
      match c with
      | 'n' => readWord .null "ull".toList s
      | 't' => readWord (.boolean true) "rue".toList s
      | 'f' => readWord (.boolean false) "alse".toList s
      | '"' => do
        let (text, s) ← readString s
        .ok (.string (String.ofList text), s)
      | '[' =>
        match depth with
        | 0 => .error (.at .tooDeep ('[' :: s))
        | depth + 1 => do
          let (items, s) ← readList (readValue depth) s
          .ok (.array items, s)
      | '{' =>
        match depth with
        | 0 => .error (.at .tooDeep ('{' :: s))
        | depth + 1 => do
          let (members, s) ← readObject (readValue depth) s
          .ok (.object members, s)
      | '-' => readNumber true s
      | c =>
        if c.isDigit then readNumber false (c :: s)
        else .error (.at .expectedValue (c :: s))

/-- How deep the brackets of a text may be nested. -/
def nestingLimit : Nat := 127

/-- What is wrong with a text, and where. -/
structure SyntaxError where
  cause : Cause
  position : Position
  deriving DecidableEq

def SyntaxError.message (e : SyntaxError) : String :=
  e.cause.message ++ " at line " ++ toString e.position.line ++ " column "
    ++ toString e.position.column

/-- Reads a text that holds one value, nested at most `depth` deep, and blanks around
it. -/
def Value.parseWithin (depth : Nat) (text : String) : Except SyntaxError Value :=
  let chars := text.toList
  let result := do
    let (value, rest) ← readValue depth chars
    match skipBlank rest with
    | [] => .ok value
    | rest => .error (Fault.at .trailingCharacters rest)
  result.mapError fun fault =>
    ⟨fault.cause, Position.after (byteLength chars - fault.left) chars⟩

/-- Reads a text that holds one value. -/
def Value.parse (text : String) : Except SyntaxError Value := parseWithin nestingLimit text

end StructuredOutput.Json
