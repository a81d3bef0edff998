import StructuredOutput.Json.Value
import StructuredOutput.Number.Shortest

/-!
# Writing JSON

Two layouts of a value as text: `compact`, without any blank, and `pretty`, with one item
or member to a line, indented by two blanks a level.
-/

namespace StructuredOutput.Json

/-- A real number has the fewest digits that read back, a half going to the even digit. It
stands in positional notation from `0.00001` up to, but without, `1e+16`. -/
def realStyle : DecimalStyle where
  tie := .toEven
  layout d := if -5 < d.point && d.point ≤ 16 then d.positional else d.scientific

def Number.write : Number → String
  | .integer n => toString n
  | .real x => x.write realStyle

/-- The digits of a hexadecimal number, lower-case, filled with zeros to the given
width. -/
def hexadecimal (width n : Nat) : String :=
  let digits := Nat.toDigits 16 n
  String.ofList (List.replicate (width - digits.length) '0' ++ digits)

/-- A character inside a quoted text. Quotes, backslashes and control characters are
escaped, all else stands for itself. -/
def escaped (c : Char) : String :=
  match c with
  | '"' => "\\\""
  | '\\' => "\\\\"
  | '\n' => "\\n"
  | '\r' => "\\r"
  | '\t' => "\\t"
  | '\x08' => "\\b"
  | '\x0c' => "\\f"
  | c => if c.toNat < 0x20 then "\\u" ++ hexadecimal 4 c.toNat else c.toString

/-- A text in quotes. -/
def quoted (s : String) : String := "\"" ++ String.join (s.toList.map escaped) ++ "\""

namespace Value

mutual

/-- The value without blanks. -/
def compact : Value → String
  | null => "null"
  | boolean b => toString b
  | number n => n.write
  | string s => quoted s
  | array items => "[" ++ ",".intercalate (compactItems items) ++ "]"
  | object members => "\x7b" ++ ",".intercalate (compactMembers members) ++ "\x7d"
  termination_by structural v => v

def compactItems : List Value → List String
  | [] => []
  | v :: rest => compact v :: compactItems rest
  termination_by structural vs => vs

def compactMembers : List (String × Value) → List String
  | [] => []
  | (name, v) :: rest => (quoted name ++ ":" ++ compact v) :: compactMembers rest
  termination_by structural ms => ms

end

/-- A line break, and the indentation of the given level. -/
def lineStart (level : Nat) : String :=
  "\n" ++ String.ofList (List.replicate (2 * level) ' ')

/-- The parts between brackets, each on a line one level further in; an empty list stays on
its line. -/
def block (opening closing : String) (level : Nat) (parts : List String) : String :=
  if parts.isEmpty then opening ++ closing
  else opening ++ ",".intercalate (parts.map (lineStart (level + 1) ++ ·))
    ++ lineStart level ++ closing

mutual

/-- The value in lines, its brackets standing at the given level. -/
def prettyAt (level : Nat) : Value → String
  | array items => block "[" "]" level (prettyItems (level + 1) items)
  | object members => block "\x7b" "\x7d" level (prettyMembers (level + 1) members)
  | v => compact v
  termination_by structural v => v

def prettyItems (level : Nat) : List Value → List String
  | [] => []
  | v :: rest => prettyAt level v :: prettyItems level rest
  termination_by structural vs => vs

def prettyMembers (level : Nat) : List (String × Value) → List String
  | [] => []
  | (name, v) :: rest =>
    (quoted name ++ ": " ++ prettyAt level v) :: prettyMembers level rest
  termination_by structural ms => ms

end

/-- The value in lines. -/
def pretty (v : Value) : String := prettyAt 0 v

end Value

end StructuredOutput.Json
