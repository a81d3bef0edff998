import StructuredOutput.Text.Quoted

/-!
# Mismatches

Why data does not have the form that was expected of it. The causes are the same for every
format that data may come from; `message` gives them their words.
-/

namespace StructuredOutput

/-- What stands in a place, as far as a mismatch reports it. -/
inductive Found where
  | null
  | boolean (value : Bool)
  | integer (value : Int)
  /-- A number with a fraction, in its written form. -/
  | real (text : String)
  | string (value : String)
  | sequence
  | map
  /-- The bare name of a variant. -/
  | variant

def Found.message : Found → String
  | null => "null"
  | boolean b => "boolean " ++ "`" ++ toString b ++ "`"
  | integer n => "integer `" ++ toString n ++ "`"
  | real text => "floating point `" ++ text ++ "`"
  | string s => "string " ++ Text.quote s
  | sequence => "sequence"
  | map => "map"
  | variant => "unit variant"

/-- Why data does not have the expected form. -/
inductive Mismatch where
  /-- Something of another kind than expected stands in the place. -/
  | kind (found : Found) (expected : String)
  /-- A variant written as an object needs exactly one member. -/
  | notSingleMember
  /-- A variant has a name that is not among the known ones. -/
  | unknownVariant (name : String) (known : List String)
  /-- A field without a default is not given. -/
  | missingField (name : String)
  /-- A list of field values ends before the first field that has no default. -/
  | tooFewItems (count : Nat) (expected : String)
  /-- A list of field values goes on behind the last field. -/
  | tooManyItems (count : Nat)
  /-- A table that names a variant needs exactly one key. -/
  | noVariant
  | severalVariants
  /-- The table or the array behind the name of a variant without content must be empty. -/
  | notEmptyTable
  | notEmptyArray
  /-- Something other than a table stands behind the name of a variant. -/
  | notTable (found : String)
  /-- Neither the name of a variant nor a table that holds one. -/
  | notVariant

/-- The names in backquotes, as a sentence lists alternatives. -/
def alternatives (names : List String) : String :=
  let quoted := names.map fun n => "`" ++ n ++ "`"
  match quoted with
  | [a, b] => a ++ " or " ++ b
  | _ => "one of " ++ ", ".intercalate quoted

def Mismatch.message : Mismatch → String
  | kind found expected => "invalid type: " ++ found.message ++ ", expected " ++ expected
  | notSingleMember => "invalid value: map, expected map with a single key"
  | unknownVariant name known =>
    "unknown variant `" ++ name ++ "`, expected " ++ alternatives known
  | missingField name => "missing field `" ++ name ++ "`"
  | tooFewItems count expected =>
    "invalid length " ++ toString count ++ ", expected " ++ expected
  | tooManyItems count =>
    "invalid length " ++ toString count ++ ", expected fewer elements in array"
  | noVariant => "wanted exactly 1 element, found 0 elements"
  | severalVariants => "wanted exactly 1 element, more than 1 element"
  | notEmptyTable => "expected empty table"
  | notEmptyArray => "expected empty array"
  | notTable found => "expected table, found " ++ found
  | notVariant => "wanted string or table"

end StructuredOutput
