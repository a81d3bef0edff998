import StructuredOutput.Number.Shortest
import StructuredOutput.Entries
import StructuredOutput.Mismatch

/-!
# TOML values

The data of a TOML document. A document is a table, and the keys of a table keep their
order.
-/

namespace StructuredOutput.Toml

/-- A floating-point number: finite, infinite or no number at all. -/
inductive Real where
  | finite (value : Binary64)
  | infinite (negative : Bool)
  | notANumber

/-- A floating-point number is shown in positional notation, however long, with the fewest
digits that read back, a half going up. -/
def realStyle : DecimalStyle := ⟨.up, Digits.positional⟩

def Real.write : Real → String
  | finite x => x.write realStyle
  | infinite negative => if negative then "-inf" else "inf"
  | notANumber => "NaN"

/-- A TOML value. -/
inductive Value where
  | string (value : String)
  | integer (value : Int)
  | real (value : Real)
  | boolean (value : Bool)
  /-- A date, a time or both, as written. -/
  | moment (text : String)
  | array (items : List Value)
  | table (entries : List (String × Value))
  /-- An array whose elements are tables with headers of their own. -/
  | tables (elements : List Value)

/-- What a value is, as a mismatch reports it. A date or a time is a map of its parts. -/
def Value.found : Value → Found
  | string s => .string s
  | integer n => .integer n
  | real x => .real x.write
  | boolean b => .boolean b
  | moment _ => .map
  | array _ => .sequence
  | table _ => .map
  | tables _ => .sequence

/-- The kind of a value in one word. -/
def Value.kindName : Value → String
  | string _ => "string"
  | integer _ => "integer"
  | real _ => "float"
  | boolean _ => "boolean"
  | moment _ => "datetime"
  | array _ => "array"
  | table _ => "table"
  | tables _ => "array of tables"

/-- The items of an array, however it is written. -/
def Value.items? : Value → Option (List Value)
  | array items => some items
  | tables elements => some elements
  | _ => none

end StructuredOutput.Toml
