import StructuredOutput.Json.Value

/-!
# Schemas

A schema describes one structured response: a name, a description and fields in order. A
field has attributes of its own (kind, description, bounds, ...), and may hold the shape of
a nested object or the description of array items. Shape and items count only where the
kind of the field asks for them: `Field.shape?` and `Field.items?` are the views that the
dialects use.
-/

namespace StructuredOutput

/-- The kind of value that a field holds. -/
inductive Kind where
  | string
  | number
  | integer
  | boolean
  | array
  | object
  deriving DecidableEq

namespace Kind

/-- The word for the kind in a schema document. -/
def name : Kind → String
  | string => "string"
  | number => "number"
  | integer => "integer"
  | boolean => "boolean"
  | array => "array"
  | object => "object"

/-- All kinds. -/
def all : List Kind := [string, number, integer, boolean, array, object]

/-- The kind of a given name. -/
def ofName? (name : String) : Option Kind := all.find? (·.name == name)

theorem ofName?_name (kind : Kind) : ofName? kind.name = some kind := by
  cases kind <;> decide

/-- The kind that a document means by a word; a word without a meaning counts as
`string`. -/
def ofName (name : String) : Kind := (ofName? name).getD string

theorem ofName_name (kind : Kind) : ofName kind.name = kind := by
  rw [ofName, ofName?_name, Option.getD_some]

/-- Whether bounds mean something for the kind. -/
def isNumeric : Kind → Bool
  | number | integer => true
  | _ => false

end Kind

/-- What is said of a field itself. -/
structure Attributes where
  kind : Kind
  description : Option String := none
  required : Bool := true
  /-- The allowed values, in order. -/
  choices : Option (List Json.Value) := none
  minimum : Option Json.Number := none
  maximum : Option Json.Number := none
  default : Option Json.Value := none

mutual

/-- A named set of fields. -/
structure Schema where
  name : String
  description : String
  fields : List (String × Field)
  /-- Whether names beyond the fields are allowed where the schema is nested. -/
  allowsExtra : Bool

/-- A field, without its name. -/
structure Field where
  attributes : Attributes
  shape : Option Shape
  items : Option Items

/-- The structure of a nested object. -/
inductive Shape where
  /-- An object described by a schema of its own. -/
  | schema (schema : Schema)
  /-- An object whose fields are declared in place. -/
  | inline (fields : List (String × Field)) (allowsExtra : Bool)
  /-- A map from arbitrary names; holds what is said of its values. -/
  | map (values : Json.Value)

/-- What is said of the items of an array. -/
inductive Items where
  /-- Objects described by a schema. -/
  | schema (schema : Schema)
  /-- A hand-authored fragment of a schema document. -/
  | fragment (fragment : Json.Value)

end

/-! ## Shapes -/

/-- An object without fields that allows no others. -/
def Shape.empty : Shape := .inline [] false

/-- The declared fields; a map declares none. -/
def Shape.fields? : Shape → Option (Entries Field)
  | schema s => some s.fields
  | inline fields _ => some fields
  | map _ => none

/-- Whether the object allows names that are not declared. -/
def Shape.allowsExtra : Shape → Bool
  | schema s => s.allowsExtra
  | inline _ allowsExtra => allowsExtra
  | map _ => true

/-! ## Fields -/

namespace Field

/-- A required field of the given kind. An empty description counts as none. -/
def ofKind (kind : Kind) (description : String) : Field where
  attributes :=
    { kind, description := if description.isEmpty then none else some description }
  shape := none
  items := none

/-- An object field described by a schema. -/
def ofSchema (description : String) (schema : Schema) : Field :=
  { ofKind .object description with shape := some (.schema schema) }

/-- An object field with its fields declared in place; a repeated name keeps its first
place and takes its last field. -/
def ofFields (description : String) (fields : List (String × Field))
    (allowsExtra : Bool) : Field :=
  { ofKind .object description with
    shape := some (.inline (Entries.collect fields) allowsExtra) }

/-- An object field used as a map to the given values. -/
def ofMap (description : String) (values : Json.Value) : Field :=
  { ofKind .object description with shape := some (.map values) }

/-- An array field whose items are described by a schema. -/
def arrayOf (description : String) (schema : Schema) : Field :=
  { ofKind .array description with items := some (.schema schema) }

/-- An array field whose items are described by a fragment. -/
def arrayOfFragment (description : String) (fragment : Json.Value) : Field :=
  { ofKind .array description with items := some (.fragment fragment) }

/-- The field with its attributes changed. -/
def mapAttributes (f : Attributes → Attributes) (field : Field) : Field :=
  { field with attributes := f field.attributes }

/-- The field, no longer required. -/
def optional : Field → Field := mapAttributes ({ · with required := false })

/-- The field restricted to the given values. -/
def withChoices (choices : List Json.Value) : Field → Field :=
  mapAttributes ({ · with choices := some choices })

/-- The field with a lower bound. A value that is no number leaves it without one. -/
def withMinimum (bound : Json.Value) : Field → Field :=
  mapAttributes ({ · with minimum := bound.number? })

/-- The field with an upper bound. A value that is no number leaves it without one. -/
def withMaximum (bound : Json.Value) : Field → Field :=
  mapAttributes ({ · with maximum := bound.number? })

/-- The field with a default value. -/
def withDefault (value : Json.Value) : Field → Field :=
  mapAttributes ({ · with default := some value })

/-- The shape of an object field, empty if none is given; `none` for a field of another
kind. -/
def shape? (field : Field) : Option Shape :=
  if field.attributes.kind = .object then some (field.shape.getD .empty) else none

/-- The items of an array field, if given; `none` for a field of another kind. -/
def items? (field : Field) : Option Items :=
  if field.attributes.kind = .array then field.items else none

end Field

/-- The lower bound, where the kind has bounds. -/
def Attributes.minimum? (a : Attributes) : Option Json.Number :=
  if a.kind.isNumeric then a.minimum else none

/-- The upper bound, where the kind has bounds. -/
def Attributes.maximum? (a : Attributes) : Option Json.Number :=
  if a.kind.isNumeric then a.maximum else none

/-! ## Schemas -/

namespace Schema

/-- A schema without fields. -/
def empty (name description : String) : Schema := ⟨name, description, [], false⟩

/-- The name of a schema that is given none. -/
def defaultName : String := "Schema"

/-- The schema of a response about which nothing is known. -/
def default : Schema := empty defaultName ""

/-- The schema with a field added; a name that is already there keeps its place. -/
def withField (name : String) (field : Field) (s : Schema) : Schema :=
  { s with fields := Entries.insert name field s.fields }

/-- The schema with names beyond its fields allowed or forbidden. -/
def withExtra (allowed : Bool) (s : Schema) : Schema := { s with allowsExtra := allowed }

/-- The names of all fields, in order. -/
def fieldNames (s : Schema) : List String := Entries.names s.fields

/-- The names of the fields that satisfy a test, in order. -/
def namesWhere (test : Attributes → Bool) (fields : Entries Field) : List String :=
  Entries.names (fields.filter fun f => test f.2.attributes)

/-- The names of the required fields, in order. -/
def requiredNames (s : Schema) : List String := namesWhere (·.required) s.fields

/-- The names of the other fields, in order. -/
def optionalNames (s : Schema) : List String := namesWhere (!·.required) s.fields

end Schema

/-! ## Paths of optional fields -/

mutual

/-- The paths of the optional fields below `parent`, each field before those inside it.
Inside an object the path goes on with a dot, inside the items of an array with `[].`; a
map and a fragment have no fields. -/
def optionalPaths (parent : String) : List (String × Field) → List String
  | [] => []
  | (name, field) :: rest =>
    (if field.attributes.required then [] else [parent ++ name])
      ++ pathsInField (parent ++ name) field ++ optionalPaths parent rest
  termination_by structural fields => fields

def pathsInField (path : String) : Field → List String
  | ⟨attributes, shape, items⟩ =>
    match attributes.kind with
    | .object => pathsInShape path shape
    | .array => pathsInItems path items
    | _ => []
  termination_by structural field => field

def pathsInShape (path : String) : Option Shape → List String
  | some (.schema ⟨_, _, fields, _⟩) => optionalPaths (path ++ ".") fields
  | some (.inline fields _) => optionalPaths (path ++ ".") fields
  | some (.map _) => []
  | none => []
  termination_by structural shape => shape

def pathsInItems (path : String) : Option Items → List String
  | some (.schema ⟨_, _, fields, _⟩) => optionalPaths (path ++ "[].") fields
  | some (.fragment _) => []
  | none => []
  termination_by structural items => items

end

/-- The paths of all optional fields. -/
def Schema.optionalFields (s : Schema) : List String := optionalPaths "" s.fields

end StructuredOutput
