import StructuredOutput.Dialect.Rules

/-!
# The OpenAI dialect

Strict structured outputs: an object requires all of its properties and forbids others,
whatever the flags of its fields say, and no level carries a numeric bound. `strict`
applies the first rule to hand-authored fragments; `withoutBounds` is the last pass over a
document and sees to the second.
-/

namespace StructuredOutput.OpenAI

open Json (Value)

/-! ## Bounds -/

/-- Whether a keyword is a numeric bound. -/
def isBound (keyword : String) : Bool := keyword == "minimum" || keyword == "maximum"

mutual

/-- A document without the bounds of its schema levels: the document itself, properties,
items, values of maps and alternatives. The names of properties are no keywords and
stay. -/
def withoutBounds : Value → Value
  | .object level => .object (levelWithoutBounds level)
  | v => v
  termination_by structural v => v

def levelWithoutBounds : List (String × Value) → Entries Value
  | [] => []
  | (keyword, v) :: rest =>
    if isBound keyword then levelWithoutBounds rest
    else
      (keyword,
        if keyword = "properties" then propertiesWithoutBounds v
        else if keyword = "items" || keyword = "additionalProperties" then withoutBounds v
        else if keyword = "anyOf" then alternativesWithoutBounds v
        else v) :: levelWithoutBounds rest
  termination_by structural level => level

def propertiesWithoutBounds : Value → Value
  | .object definitions => .object (definitionsWithoutBounds definitions)
  | v => v
  termination_by structural v => v

def definitionsWithoutBounds : List (String × Value) → Entries Value
  | [] => []
  | (name, v) :: rest => (name, withoutBounds v) :: definitionsWithoutBounds rest
  termination_by structural definitions => definitions

def alternativesWithoutBounds : Value → Value
  | .array branches => .array (branchesWithoutBounds branches)
  | v => v
  termination_by structural v => v

def branchesWithoutBounds : List Value → List Value
  | [] => []
  | v :: rest => withoutBounds v :: branchesWithoutBounds rest
  termination_by structural branches => branches

end

/-! ## Strict fragments -/

/-- Makes an object level strict. With properties it requires all of them and forbids
others; without them it forbids others unless it says something about them. Any other level
stays as it is. -/
def tighten (level : Entries Value) : Entries Value :=
  if describesObject level then
    match Json.object? "properties" level with
    | some properties =>
      (level.insert "required" (.texts properties.names)).insert "additionalProperties"
        (.boolean false)
    | none => level.insertIfAbsent "additionalProperties" (.boolean false)
  else level

mutual

/-- A fragment in which every object level is strict that is reached through items, and
through the properties and the values of objects. -/
def strict : Value → Value
  | .object level => .object (tighten (strictLevel (describesObject level) level))
  | v => v
  termination_by structural v => v

def strictLevel (isObject : Bool) : List (String × Value) → Entries Value
  | [] => []
  | (keyword, v) :: rest =>
    (keyword,
      if keyword = "items" then strict v
      else if keyword = "properties" && isObject then strictProperties v
      else if keyword = "additionalProperties" && isObject then strict v
      else v) :: strictLevel isObject rest
  termination_by structural level => level

def strictProperties : Value → Value
  | .object definitions => .object (strictDefinitions definitions)
  | v => v
  termination_by structural v => v

def strictDefinitions : List (String × Value) → Entries Value
  | [] => []
  | (name, v) :: rest => (name, strict v) :: strictDefinitions rest
  termination_by structural definitions => definitions

end

/-! ## Rules -/

/-- The rules of the dialect. -/
def rules : Rules where
  demands _ := true
  writesDefault := false
  fragment := strict
  closing _ := [("additionalProperties", .boolean false)]
  nestedClosing _ _ := [("additionalProperties", .boolean false)]
  finish := withoutBounds

/-! ## Format names -/

/-- Whether the provider allows a character in the name of a response format. -/
def isFormatChar (c : Char) : Bool := c.isAlphanum || c == '_' || c == '-'

/-- The longest name that the provider takes. -/
def formatNameLimit : Nat := 64

/-- The name for a schema whose own name leaves nothing to be used. -/
def fallbackFormatName : String := "Details"

/-- The name of a response format: other characters become underscores, and what exceeds
the limit is cut off. -/
def formatName (name : String) : String :=
  let allowed := (name.toList.take formatNameLimit).map fun c =>
    if isFormatChar c then c else '_'
  if allowed.all (· == '_') then fallbackFormatName else String.ofList allowed

end StructuredOutput.OpenAI
