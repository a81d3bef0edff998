import StructuredOutput.Entries
import StructuredOutput.Number.Binary64

/-!
# JSON values

JSON as data. The members of an object keep their order, which is part of the value;
`equiv` is the coarser equality that ignores it.
-/

namespace StructuredOutput.Json

/-- A JSON number: whole numbers are kept apart from numbers with a fraction or an
exponent. -/
inductive Number where
  | integer (value : Int)
  | real (value : Binary64)
  deriving DecidableEq

/-- Numeric equality within a kind: an integer never equals a real, and the two zeros are
equal. -/
def Number.equiv : Number → Number → Bool
  | .integer m, .integer n => m == n
  | .real x, .real y => x.same y
  | _, _ => false

/-- A JSON value. -/
inductive Value where
  | null
  | boolean (value : Bool)
  | number (value : Number)
  | string (value : String)
  | array (items : List Value)
  | object (members : List (String × Value))

instance : Inhabited Value := ⟨.null⟩

namespace Value

/-! ## Views -/

def isNull : Value → Bool
  | null => true
  | _ => false

def string? : Value → Option String
  | string s => some s
  | _ => none

def number? : Value → Option Number
  | number n => some n
  | _ => none

def array? : Value → Option (List Value)
  | array items => some items
  | _ => none

def object? : Value → Option (Entries Value)
  | object members => some members
  | _ => none

/-- The array of the given texts. -/
def texts (names : List String) : Value := array (names.map string)

/-! ## Equality that ignores the order of members -/

mutual

/-- Whether two values are equal up to the order of object members. -/
def equiv : Value → Value → Bool
  | null, null => true
  | boolean a, boolean b => a == b
  | number a, number b => a.equiv b
  | string a, string b => a == b
  | array as, array bs => equivItems as bs
  | object as, object bs => as.length == bs.length && equivMembers as bs
  | _, _ => false
  termination_by structural a => a

/-- Whether two lists agree item by item. -/
def equivItems : List Value → List Value → Bool
  | [], [] => true
  | a :: as, b :: bs => equiv a b && equivItems as bs
  | _, _ => false
  termination_by structural as => as

/-- Whether every member on the left has its equal on the right. -/
def equivMembers : List (String × Value) → Entries Value → Bool
  | [], _ => true
  | (name, a) :: rest, bs =>
    (match bs.lookup name with
      | some b => equiv a b
      | none => false) && equivMembers rest bs
  termination_by structural as => as

end

end Value

/-! ## Members of an object -/

/-- The text under `name`, if there is one. -/
def text? (name : String) (members : Entries Value) : Option String :=
  (members.lookup name).bind Value.string?

/-- The object under `name`, if there is one. -/
def object? (name : String) (members : Entries Value) : Option (Entries Value) :=
  (members.lookup name).bind Value.object?

end StructuredOutput.Json
