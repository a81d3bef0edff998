import StructuredOutput.Schema.Basic

/-!
# Schemas as JSON

The stored form of a schema. A schema always has its four members; a field has its kind and
its `required` flag, and of the rest what is given. A shape or the description of items is
an object with one member, named for its form.
-/

namespace StructuredOutput

open Json (Value)

/-- The member of that name, if there is a value for it. -/
def optionalMember (name : String) (value : Option Value) : Entries Value :=
  match value with
  | some v => [(name, v)]
  | none => []

/-- The members that attributes take. -/
def Attributes.encode (a : Attributes) : Entries Value :=
  [("type", .string a.kind.name)]
    ++ optionalMember "description" (a.description.map .string)
    ++ [("required", .boolean a.required)]
    ++ optionalMember "enum" (a.choices.map .array)
    ++ optionalMember "minimum" (a.minimum.map .number)
    ++ optionalMember "maximum" (a.maximum.map .number)
    ++ optionalMember "default" a.default

mutual

/-- The stored form of a schema. -/
def Schema.encode : Schema → Value
  | ⟨name, description, fields, extra⟩ => .object [
      ("name", .string name),
      ("description", .string description),
      ("properties", .object (encodeFields fields)),
      ("additional_properties", .boolean extra)]
  termination_by structural s => s

def encodeFields : List (String × Field) → Entries Value
  | [] => []
  | (name, f) :: rest => (name, Field.encode f) :: encodeFields rest
  termination_by structural fields => fields

/-- The stored form of a field. -/
def Field.encode : Field → Value
  | ⟨attributes, shape, items⟩ =>
    .object (attributes.encode ++ encodeShape shape ++ encodeItems items)
  termination_by structural f => f

/-- The member that a shape takes in its field. -/
def encodeShape : Option Shape → Entries Value
  | none => []
  | some shape => [("object", Shape.encode shape)]
  termination_by structural shape => shape

/-- The stored form of a shape. -/
def Shape.encode : Shape → Value
  | .schema s => .object [("schema", Schema.encode s)]
  | .inline fields extra => .object [("inline", .object [
      ("properties", .object (encodeFields fields)),
      ("additional_properties", .boolean extra)])]
  | .map values => .object [("map", values)]
  termination_by structural shape => shape

/-- The member that the description of items takes in its field. -/
def encodeItems : Option Items → Entries Value
  | none => []
  | some items => [("items", Items.encode items)]
  termination_by structural items => items

/-- The stored form of the description of items. -/
def Items.encode : Items → Value
  | .schema s => .object [("schema", Schema.encode s)]
  | .fragment fragment => .object [("fragment", fragment)]
  termination_by structural items => items

end

end StructuredOutput
