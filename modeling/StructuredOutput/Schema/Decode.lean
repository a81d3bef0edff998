import StructuredOutput.Schema.Basic
import StructuredOutput.Json.Writer
import StructuredOutput.Mismatch

/-!
# Schemas from JSON

Reads the stored form of a schema. A schema or a field is an object, or a list of its
members' values in their fixed order. Members are read in the order in which they stand,
unknown ones are passed over, and the first that does not fit is reported; that a member is
missing is found out only at the end. An optional member may be `null`.
-/

namespace StructuredOutput

open Json (Value)

/-- What a value is, as a mismatch reports it. -/
def Json.Value.found : Value → Found
  | .null => .null
  | .boolean b => .boolean b
  | .number (.integer n) => .integer n
  | .number n => .real n.write
  | .string s => .string s
  | .array _ => .sequence
  | .object _ => .map

/-- Refuses a value that is not what stands in its place. -/
def Json.Value.refuse (v : Value) (expected : String) : Except Mismatch α :=
  .error (.kind v.found expected)

namespace Decode

/-! ## Plain values -/

def text : Value → Except Mismatch String
  | .string s => .ok s
  | v => v.refuse "a string"

def flag : Value → Except Mismatch Bool
  | .boolean b => .ok b
  | v => v.refuse "a boolean"

def number : Value → Except Mismatch Json.Number
  | .number n => .ok n
  | v => v.refuse "a JSON number"

def list : Value → Except Mismatch (List Value)
  | .array items => .ok items
  | v => v.refuse "a sequence"

/-- Reads a member that may be `null`, which counts as missing. -/
def nullable (read : Value → Except Mismatch α) : Value → Except Mismatch (Option α)
  | .null => .ok none
  | v => some <$> read v

/-- The name of a kind, alone or as the only member of an object, with `null` for its
content. -/
def kind : Value → Except Mismatch Kind
  | .string name => named name
  | .object [(name, content)] => do
    let kind ← named name
    match content with
    | .null => .ok kind
    | content => content.refuse "unit"
  | .object _ => .error .notSingleMember
  | v => v.refuse "string or map"
where
  named (name : String) : Except Mismatch Kind :=
    match Kind.ofName? name with
    | some kind => .ok kind
    | none => .error (.unknownVariant name (Kind.all.map Kind.name))

/-! ## Members -/

/-- The members of a schema. -/
inductive SchemaMember where
  | name
  | description
  | fields
  | extra

/-- The members of a schema in the order in which a list gives them. -/
def SchemaMember.all : List SchemaMember := [name, description, fields, extra]

def SchemaMember.ofName? : String → Option SchemaMember
  | "name" => some name
  | "description" => some description
  | "properties" => some fields
  | "additional_properties" => some extra
  | _ => none

/-- The members of a field. -/
inductive FieldMember where
  | kind
  | description
  | required
  | choices
  | minimum
  | maximum
  | default
  | shape
  | items

/-- The members of a field in the order in which a list gives them. -/
def FieldMember.all : List FieldMember :=
  [kind, description, required, choices, minimum, maximum, default, shape, items]

def FieldMember.ofName? : String → Option FieldMember
  | "type" => some kind
  | "description" => some description
  | "required" => some required
  | "enum" => some choices
  | "minimum" => some minimum
  | "maximum" => some maximum
  | "default" => some default
  | "object" => some shape
  | "items" => some items
  | _ => none

/-- A schema of which the name may still be missing. -/
structure SchemaDraft where
  name : Option String := none
  description : String := ""
  fields : Entries Field := []
  extra : Bool := false

/-- The finished schema, if it has its name. -/
def SchemaDraft.schema? (d : SchemaDraft) : Option Schema :=
  d.name.map fun name => ⟨name, d.description, d.fields, d.extra⟩

/-- A field of which the kind may still be missing. -/
structure FieldDraft where
  kind : Option Kind := none
  attributes : Attributes := { kind := .string }
  shape : Option Shape := none
  items : Option Items := none

/-- The finished field, if it has its kind. -/
def FieldDraft.field? (d : FieldDraft) : Option Field :=
  d.kind.map fun kind => ⟨{ d.attributes with kind }, d.shape, d.items⟩

/-- Fields declared in place, of which the list may still be missing. -/
structure InlineDraft where
  fields : Option (Entries Field) := none
  extra : Bool := false

/-- What a list of member values amounts to: nothing without its first item, which has no
default, and too much if it goes on behind the last member. -/
def finishList (given members : Nat) (expected : String) (result : Option α) :
    Except Mismatch α :=
  match result with
  | none => .error (.tooFewItems given expected)
  | some r => if members < given then .error (.tooManyItems given) else .ok r

/-- What an object amounts to: nothing without the member that has no default. -/
def finishObject (needed : String) (result : Option α) : Except Mismatch α :=
  match result with
  | none => .error (.missingField needed)
  | some r => .ok r

/-- Takes the value of a schema's member into the draft. How the fields are read is
given. -/
def schemaMember (draft : SchemaDraft) (member : SchemaMember) (v : Value)
    (fieldMap : Unit → Except Mismatch (Entries Field)) : Except Mismatch SchemaDraft :=
  match member with
  | .name => do let name ← text v; .ok { draft with name := some name }
  | .description => do let description ← text v; .ok { draft with description }
  | .fields => do let fields ← fieldMap (); .ok { draft with fields }
  | .extra => do let extra ← flag v; .ok { draft with extra }

/-- Takes the value of a field's member into the draft. How a shape and the description of
items are read is given. -/
def fieldMember (draft : FieldDraft) (member : FieldMember) (v : Value)
    (shape : Unit → Except Mismatch (Option Shape))
    (items : Unit → Except Mismatch (Option Items)) : Except Mismatch FieldDraft :=
  match member with
  | .kind => do
    let kind ← kind v
    .ok { draft with kind := some kind }
  | .description => do
    let description ← nullable text v
    .ok { draft with attributes := { draft.attributes with description } }
  | .required => do
    let required ← flag v
    .ok { draft with attributes := { draft.attributes with required } }
  | .choices => do
    let choices ← nullable list v
    .ok { draft with attributes := { draft.attributes with choices } }
  | .minimum => do
    let minimum ← nullable number v
    .ok { draft with attributes := { draft.attributes with minimum } }
  | .maximum => do
    let maximum ← nullable number v
    .ok { draft with attributes := { draft.attributes with maximum } }
  | .default => do
    let default ← nullable .ok v
    .ok { draft with attributes := { draft.attributes with default } }
  | .shape => do
    let shape ← shape ()
    .ok { draft with shape }
  | .items => do
    let items ← items ()
    .ok { draft with items }

/-! ## Schemas and fields -/

mutual

/-- Reads a schema. -/
def schema : Value → Except Mismatch Schema
  | .object members => do
    let draft ← schemaMembers {} members
    finishObject "name" draft.schema?
  | .array items => do
    let draft ← schemaItems {} SchemaMember.all items
    finishList items.length 4 "struct Schema with 4 elements" draft.schema?
  | v => v.refuse "struct Schema"
  termination_by structural v => v

def schemaMembers (draft : SchemaDraft) :
    List (String × Value) → Except Mismatch SchemaDraft
  | [] => .ok draft
  | (name, v) :: rest =>
    match SchemaMember.ofName? name with
    | some member => do
      let draft ← schemaMember draft member v fun _ => fieldMap v
      schemaMembers draft rest
    | none => schemaMembers draft rest
  termination_by structural members => members

def schemaItems (draft : SchemaDraft) (order : List SchemaMember) :
    List Value → Except Mismatch SchemaDraft
  | [] => .ok draft
  | v :: rest =>
    match order with
    | [] => .ok draft
    | member :: order => do
      let draft ← schemaMember draft member v fun _ => fieldMap v
      schemaItems draft order rest
  termination_by structural items => items

/-- Reads the fields of a schema. -/
def fieldMap : Value → Except Mismatch (Entries Field)
  | .object members => fieldEntries members
  | v => v.refuse "a map"
  termination_by structural v => v

def fieldEntries : List (String × Value) → Except Mismatch (Entries Field)
  | [] => .ok []
  | (name, v) :: rest => do
    let first ← field v
    let others ← fieldEntries rest
    .ok ((name, first) :: others)
  termination_by structural members => members

/-- Reads a field. -/
def field : Value → Except Mismatch Field
  | .object members => do
    let draft ← fieldMembers {} members
    finishObject "type" draft.field?
  | .array items => do
    let draft ← fieldItems {} FieldMember.all items
    finishList items.length 9 "struct Property with 9 elements" draft.field?
  | v => v.refuse "struct Property"
  termination_by structural v => v

def fieldMembers (draft : FieldDraft) : List (String × Value) → Except Mismatch FieldDraft
  | [] => .ok draft
  | (name, v) :: rest =>
    match FieldMember.ofName? name with
    | some member => do
      let draft ←
        fieldMember draft member v (fun _ => shapeOrNull v) fun _ => itemsOrNull v
      fieldMembers draft rest
    | none => fieldMembers draft rest
  termination_by structural members => members

def fieldItems (draft : FieldDraft) (order : List FieldMember) :
    List Value → Except Mismatch FieldDraft
  | [] => .ok draft
  | v :: rest =>
    match order with
    | [] => .ok draft
    | member :: order => do
      let draft ←
        fieldMember draft member v (fun _ => shapeOrNull v) fun _ => itemsOrNull v
      fieldItems draft order rest
  termination_by structural items => items

/-- Reads the shape of an object, or `null`. -/
def shapeOrNull : Value → Except Mismatch (Option Shape)
  | .null => .ok none
  | .object [(name, content)] =>
    match name with
    | "schema" => do let s ← schema content; .ok (some (.schema s))
    | "inline" => do let shape ← inlineFields content; .ok (some shape)
    | "map" => .ok (some (.map content))
    | name => .error (.unknownVariant name ["schema", "inline", "map"])
  | .object _ => .error .notSingleMember
  | .string name =>
    match name with
    | "schema" | "map" => .error (.kind .variant "newtype variant")
    | "inline" => .error (.kind .variant "struct variant")
    | name => .error (.unknownVariant name ["schema", "inline", "map"])
  | v => v.refuse "string or map"
  termination_by structural v => v

/-- Reads fields that are declared in place. -/
def inlineFields : Value → Except Mismatch Shape
  | .object members => do
    let draft ← inlineMembers {} members
    finishObject "properties" (draft.fields.map (.inline · draft.extra))
  | v => v.refuse "struct variant"
  termination_by structural v => v

def inlineMembers (draft : InlineDraft) :
    List (String × Value) → Except Mismatch InlineDraft
  | [] => .ok draft
  | (name, v) :: rest =>
    match name with
    | "properties" => do
      let fields ← fieldMap v
      inlineMembers { draft with fields := some fields } rest
    | "additional_properties" => do
      let extra ← flag v
      inlineMembers { draft with extra } rest
    | _ => inlineMembers draft rest
  termination_by structural members => members

/-- Reads the description of array items, or `null`. -/
def itemsOrNull : Value → Except Mismatch (Option Items)
  | .null => .ok none
  | .object [(name, content)] =>
    match name with
    | "schema" => do let s ← schema content; .ok (some (.schema s))
    | "fragment" => .ok (some (.fragment content))
    | name => .error (.unknownVariant name ["schema", "fragment"])
  | .object _ => .error .notSingleMember
  | .string name =>
    match name with
    | "schema" | "fragment" => .error (.kind .variant "newtype variant")
    | name => .error (.unknownVariant name ["schema", "fragment"])
  | v => v.refuse "string or map"
  termination_by structural v => v

end

end Decode

/-- Reads the stored form of a schema. -/
def Schema.decode (v : Value) : Except Mismatch Schema := Decode.schema v

/-- Reads the stored form of a field. -/
def Field.decode (v : Value) : Except Mismatch Field := Decode.field v

end StructuredOutput
