import StructuredOutput.Schema.Basic

/-!
# Rules of a dialect

A dialect writes a schema as a schema document. All dialects write the same levels in the
same order (attributes, properties, required names, what closes the level, default) and
differ in a few decisions, which `Rules` collects. `Rules.compile` is the one recursion
over schemas.
-/

namespace StructuredOutput

open Json (Value)

/-- What distinguishes a dialect. -/
structure Rules where
  /-- Whether a field is listed under `required`. -/
  demands : Attributes → Bool
  /-- Whether the default of a field is written. -/
  writesDefault : Bool
  /-- What becomes of a hand-authored fragment. -/
  fragment : Value → Value
  /-- The keywords that close an object that stands on its own: the document, or the items
  of an array. Given the names of its fields. -/
  closing : List String → Entries Value
  /-- The keywords that close an object field with declared fields. Given their names, and
  whether it allows others. -/
  nestedClosing : List String → Bool → Entries Value
  /-- What becomes of the finished document. -/
  finish : Value → Value

/-- The member of that name, unless the list is empty. -/
def nonemptyMember (name : String) (items : List Value) : Entries Value :=
  if items.isEmpty then [] else [(name, .array items)]

/-- The bound of that name, if there is one. -/
def boundMember (name : String) (bound : Option Json.Number) : Entries Value :=
  match bound with
  | some n => [(name, .number n)]
  | none => []

/-- The keywords that every dialect writes for a field. An empty description or list of
choices is left out, and so are bounds that mean nothing for the kind. -/
def Attributes.keywords (a : Attributes) : Entries Value :=
  [("type", .string a.kind.name)]
    ++ (match a.description with
      | some d => if d.isEmpty then [] else [("description", .string d)]
      | none => [])
    ++ nonemptyMember "enum" (a.choices.getD [])
    ++ boundMember "minimum" a.minimum?
    ++ boundMember "maximum" a.maximum?

namespace Rules

/-- The keyword for a default, if it is given and written. -/
def defaultKeyword (r : Rules) (a : Attributes) : Entries Value :=
  match a.default with
  | some v => if r.writesDefault then [("default", v)] else []
  | none => []

/-- An object on its own, from the names it requires and its compiled properties. It always
says what it requires. -/
def standalone (r : Rules) (required : List String) (properties : Entries Value) : Value :=
  .object ([
    ("type", .string "object"),
    ("properties", .object properties),
    ("required", .texts required)] ++ r.closing properties.names)

/-- The keywords of an object field with declared fields. What it requires is said only if
it requires something. -/
def nested (r : Rules) (required : List String) (properties : Entries Value)
    (extra : Bool) : Entries Value :=
  ("properties", .object properties)
    :: nonemptyMember "required" (required.map .string)
    ++ r.nestedClosing properties.names extra

mutual

/-- The properties of an object with the given fields. -/
def properties (r : Rules) : List (String × Field) → Entries Value
  | [] => []
  | (name, f) :: rest => (name, r.field f) :: r.properties rest
  termination_by structural fields => fields

/-- The definition of a field. -/
def field (r : Rules) : Field → Value
  | ⟨attributes, shape, items⟩ =>
    .object (attributes.keywords
      ++ (match attributes.kind with
        | .object => r.shape shape
        | .array => r.items items
        | _ => [])
      ++ r.defaultKeyword attributes)
  termination_by structural f => f

/-- The keywords for the shape of an object field; without a shape it is empty and
closed. -/
def shape (r : Rules) : Option Shape → Entries Value
  | none => r.nested [] [] false
  | some (.schema ⟨_, _, fields, extra⟩) =>
    r.nested (Schema.namesWhere r.demands fields) (r.properties fields) extra
  | some (.inline fields extra) =>
    r.nested (Schema.namesWhere r.demands fields) (r.properties fields) extra
  | some (.map values) => [("additionalProperties", r.fragment values)]
  termination_by structural shape => shape

/-- The keywords for the items of an array field. -/
def items (r : Rules) : Option Items → Entries Value
  | none => []
  | some (.schema ⟨_, _, fields, _⟩) =>
    [("items", r.standalone (Schema.namesWhere r.demands fields) (r.properties fields))]
  | some (.fragment fragment) => [("items", r.fragment fragment)]
  termination_by structural items => items

end

/-- The document of a schema. Its name, its description and whether it allows extra names
do not go into it. -/
def compile (r : Rules) (s : Schema) : Value :=
  r.finish (r.standalone (Schema.namesWhere r.demands s.fields) (r.properties s.fields))

end Rules

/-! ## Fragments of documents -/

/-- Whether a level of a fragment says that it describes an object. -/
def describesObject (level : Entries Value) : Bool :=
  Json.text? "type" level == some "object"

end StructuredOutput
