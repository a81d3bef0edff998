import StructuredOutput.Dialect.Rules

/-!
# The Gemini dialect

Every object level with properties states their order under `propertyOrdering`, also inside
hand-authored fragments, where an order that is already stated stands.
-/

namespace StructuredOutput.Gemini

open Json (Value)

/-- States the order of the properties of an object level, unless it is stated. -/
def stateOrder (level : Entries Value) : Entries Value :=
  match describesObject level, Json.object? "properties" level with
  | true, some properties =>
    level.insertIfAbsent "propertyOrdering" (.texts properties.names)
  | _, _ => level

mutual

/-- A fragment in which every object level reached through properties, items and values of
maps states the order of its properties. -/
def ordered : Value → Value
  | .object level => .object (stateOrder (orderedLevel level))
  | v => v
  termination_by structural v => v

def orderedLevel : List (String × Value) → Entries Value
  | [] => []
  | (keyword, v) :: rest =>
    (keyword,
      if keyword = "properties" then orderedProperties v
      else if keyword = "items" || keyword = "additionalProperties" then ordered v
      else v) :: orderedLevel rest
  termination_by structural level => level

def orderedProperties : Value → Value
  | .object definitions => .object (orderedDefinitions definitions)
  | v => v
  termination_by structural v => v

def orderedDefinitions : List (String × Value) → Entries Value
  | [] => []
  | (name, v) :: rest => (name, ordered v) :: orderedDefinitions rest
  termination_by structural definitions => definitions

end

/-- The rules of the dialect. -/
def rules : Rules where
  demands := (·.required)
  writesDefault := true
  fragment := ordered
  closing names := [("propertyOrdering", .texts names)]
  nestedClosing names extra :=
    [("propertyOrdering", .texts names), ("additionalProperties", .boolean extra)]
  finish := id

end StructuredOutput.Gemini
