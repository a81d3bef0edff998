import StructuredOutput.Schema.Basic
import StructuredOutput.Json.Reader

/-!
# Schemas from documents

Rebuilds a schema from a schema document. Every JSON value is a document: what is malformed
counts as not given. A field is required exactly when the `required` list of its own level
names it. Objects with a `properties` object, and array items that are such objects, become
nested schemas; what else is said of map values and items is kept as it stands.
-/

namespace StructuredOutput

open Json (Value)

namespace Document

/-- The text of a keyword, empty if it has none. -/
def textOrEmpty (keyword : String) (level : Entries Value) : String :=
  (Json.text? keyword level).getD ""

/-- The names that the `required` keyword of a level lists; what is no name is passed
over. -/
def requiredNames (level : Entries Value) : List String :=
  match level.lookup "required" with
  | some (.array names) => names.filterMap Value.string?
  | _ => []

/-- Whether a level allows names beyond its properties. A description of their values
allows them, and anything else but `true` does not. -/
def allowsExtra (level : Entries Value) : Bool :=
  match level.lookup "additionalProperties" with
  | some (.boolean allowed) => allowed
  | some (.object _) => true
  | _ => false

/-- Whether a level has a `properties` object. -/
def hasProperties (level : Entries Value) : Bool :=
  (Json.object? "properties" level).isSome

/-- The kind of a definition, a string if it gives none. -/
def kindOf (level : Entries Value) : Kind :=
  match Json.text? "type" level with
  | some name => Kind.ofName name
  | none => .string

/-- The number under a keyword. -/
def bound (keyword : String) (level : Entries Value) : Option Json.Number :=
  (level.lookup keyword).bind Value.number?

/-- The attributes that a definition gives to its field. -/
def attributesOf (required : Bool) (level : Entries Value) : Attributes where
  kind := kindOf level
  description := (Json.text? "description" level).filter (!·.isEmpty)
  required
  choices := (level.lookup "enum").bind Value.array?
  minimum := if (kindOf level).isNumeric then bound "minimum" level else none
  maximum := if (kindOf level).isNumeric then bound "maximum" level else none
  default := (level.lookup "default").filter (!·.isNull)

/-- The schema at a level, its fields given. -/
def schemaAt (name : String) (level : Entries Value) (fields : Entries Field) : Schema :=
  ⟨name, textOrEmpty "description" level, fields, allowsExtra level⟩

/-- The shape of the object field `name`. Without a `properties` object it is a map, unless
extra names are forbidden or not mentioned. -/
def shapeAt (name : String) (level : Entries Value) (fields : Entries Field) :
    Option Shape :=
  if hasProperties level then some (.schema (schemaAt (name ++ "Object") level fields))
  else match level.lookup "additionalProperties" with
    | none => none
    | some (.boolean false) => some .empty
    | some (.object values) => some (.map (.object values))
    | some _ => some (.map (.boolean true))

/-- The description of array items that give none. -/
def itemDescription : String := "Array item"

/-- The items of the array field `name`, given as an object. -/
def itemsAt (name : String) (level : Entries Value) (fields : Entries Field) : Items :=
  if Json.text? "type" level = some "object" && hasProperties level then
    let s := schemaAt (name ++ "Item") level fields
    .schema { s with
      description := if s.description.isEmpty then itemDescription else s.description }
  else .fragment (.object level)

/-- A field about which nothing is known. -/
def unknownField (required : Bool) : Field := ⟨attributesOf required [], none, none⟩

/-- Items that are not described by an object count as strings. -/
def unknownItems : Items := .fragment (.object [("type", .string "string")])

/-- The field of a definition, what is nested in it given. -/
def fieldAt (name : String) (required : Bool) (level : Entries Value)
    (fields : Entries Field) (items : Option Items) : Field where
  attributes := attributesOf required level
  shape := if kindOf level = .object then shapeAt name level fields else none
  items := if kindOf level = .array then items else none

mutual

/-- The fields that the `properties` keyword of a level declares. -/
def fieldsOf (required : List String) : List (String × Value) → Entries Field
  | [] => []
  | (keyword, v) :: rest =>
    if keyword = "properties" then fieldsOfValue required v else fieldsOf required rest
  termination_by structural level => level

def fieldsOfValue (required : List String) : Value → Entries Field
  | .object definitions => fieldsOfDefinitions required definitions
  | _ => []
  termination_by structural v => v

def fieldsOfDefinitions (required : List String) : List (String × Value) → Entries Field
  | [] => []
  | (name, definition) :: rest =>
    (name, fieldOf name (required.contains name) definition)
      :: fieldsOfDefinitions required rest
  termination_by structural definitions => definitions

/-- The field that a definition describes. -/
def fieldOf (name : String) (required : Bool) : Value → Field
  | .object level =>
    fieldAt name required level (fieldsOf (requiredNames level) level) (itemsIn name level)
  | _ => unknownField required
  termination_by structural definition => definition

/-- The items that the `items` keyword of a level describes. -/
def itemsIn (name : String) : List (String × Value) → Option Items
  | [] => none
  | (keyword, v) :: rest =>
    if keyword = "items" then some (itemsOf name v) else itemsIn name rest
  termination_by structural level => level

def itemsOf (name : String) : Value → Items
  | .object level => itemsAt name level (fieldsOf (requiredNames level) level)
  | _ => unknownItems
  termination_by structural v => v

end

end Document

namespace Schema

/-- The name that a document gives itself. -/
def documentName (level : Entries Value) : String :=
  ((Json.text? "title" level).orElse fun _ => Json.text? "name" level).getD defaultName

/-- The schema that a document describes. -/
def ofDocument : Value → Schema
  | .object level =>
    Document.schemaAt (documentName level) level
      (Document.fieldsOf (Document.requiredNames level) level)
  | _ => default

/-- The schema that the text of a document describes. Only a text that is no JSON is
refused. -/
def ofText (text : String) : Except Json.SyntaxError Schema :=
  ofDocument <$> Value.parse text

end Schema

end StructuredOutput
