import StructuredOutput.Proofs.Gemini.Order
import StructuredOutput.Proofs.OpenAI.Strictify
import StructuredOutput.Schema.Document

/-!
# What a document keeps of a schema

A document does not say everything about the schema it was compiled from.
`Provider.normalForm` is what is left: names and descriptions of nested schemas are
replaced by those that a reader makes up, attributes are settled, and the shape of a nested
object tells only whether it has fields, is closed or is a map. Dialects differ in three
ways, which `Retention` collects.
-/

namespace StructuredOutput

open Json (Value)

/-- What a dialect keeps: of attributes, of a fragment, and of the flag of a nested
object. -/
structure Retention where
  attributes : Attributes → Attributes
  fragment : Value → Value
  extra : Bool → Bool

namespace Retention

/-- The shape that is read for a map. Closed, it is an empty object. -/
def mapShape (k : Retention) : Value → Shape
  | .boolean false => .empty
  | .object values => .map (k.fragment (.object values))
  | _ => .map (.boolean true)

/-- The shape that is read for declared fields. -/
def declaredShape (name : String) (description : Option String) (fields : Entries Field)
    (extra : Bool) : Shape :=
  .schema ⟨name ++ "Object", description.getD "", fields, extra⟩

mutual

def fields (k : Retention) : List (String × Field) → Entries Field
  | [] => []
  | (name, f) :: rest => (name, k.field name f) :: k.fields rest
  termination_by structural fields => fields

/-- What is kept of the field `name`: shapes of object fields and items of array fields
only. -/
def field (k : Retention) (name : String) : Field → Field
  | ⟨attributes, shape, items⟩ => {
      attributes := k.attributes attributes
      shape :=
        if attributes.kind = .object then some (k.shape name attributes.description shape)
        else none
      items := if attributes.kind = .array then k.items name items else none }
  termination_by structural f => f

/-- What is kept of the shape of a described object field. -/
def shape (k : Retention) (name : String) (description : Option String) :
    Option Shape → Shape
  | none => declaredShape name description [] false
  | some (.schema ⟨_, _, fields, extra⟩) =>
    declaredShape name description (k.fields fields) (k.extra extra)
  | some (.inline fields extra) =>
    declaredShape name description (k.fields fields) (k.extra extra)
  | some (.map values) => k.mapShape values
  termination_by structural shape => shape

/-- What is kept of items. A fragment is read like any other description of items. -/
def items (k : Retention) (name : String) : Option Items → Option Items
  | none => none
  | some (.schema ⟨_, _, fields, _⟩) =>
    some (.schema ⟨name ++ "Item", Document.itemDescription, k.fields fields, false⟩)
  | some (.fragment fragment) => some (Document.itemsOf name (k.fragment fragment))
  termination_by structural items => items

end

/-- What is kept of a schema. -/
def schema (k : Retention) (s : Schema) : Schema :=
  ⟨Schema.defaultName, "", k.fields s.fields, false⟩

theorem fields_eq (k : Retention) (fields : Entries Field) :
    k.fields fields = fields.mapValues k.field := by
  induction fields with
  | nil => rfl
  | cons e rest ih => simp [Retention.fields, ih]

end Retention

/-! ## What the dialects keep -/

/-- What the provider's dialect keeps. In strict mode every field is required, bounds and
defaults are gone, and nested objects are closed. -/
def Provider.retention : Provider → Retention
  | .openAI =>
    ⟨fun a => (OpenAI.strictifyAttributes a).settled, OpenAI.strictifyFragment,
      fun _ => false⟩
  | .anthropic => ⟨Attributes.settled, id, fun _ => false⟩
  | .gemini => ⟨Attributes.settled, Gemini.ordered, id⟩
  | .ollama => ⟨Attributes.settled, id, id⟩

/-- What a document in the provider's dialect says about its schema. -/
def Provider.normalForm (p : Provider) (s : Schema) : Schema := p.retention.schema s

/-! ## What strict mode keeps -/

-- What the plain dialect keeps of a strictified schema is what strict mode keeps of the
-- schema.
mutual

theorem retention_strictifyFields : ∀ fields : List (String × Field),
    Provider.ollama.retention.fields (OpenAI.strictifyFields fields)
      = Provider.openAI.retention.fields fields
  | [] => rfl
  | (name, f) :: rest => by
    rw [OpenAI.strictifyFields, Retention.fields, Retention.fields,
      retention_strictifyField f name, retention_strictifyFields rest]
  termination_by structural fields => fields

theorem retention_strictifyField : ∀ (f : Field) (name : String),
    Provider.ollama.retention.field name (OpenAI.strictifyField f)
      = Provider.openAI.retention.field name f
  | ⟨attributes, shape, items⟩, name => by
    rw [OpenAI.strictifyField, Retention.field, Retention.field,
      retention_strictifyShape shape name, retention_strictifyItems items name]
    rfl
  termination_by structural f => f

theorem retention_strictifyShape : ∀ (shape : Option Shape) (name : String)
    (description : Option String),
    Provider.ollama.retention.shape name description (OpenAI.strictifyShape shape)
      = Provider.openAI.retention.shape name description shape
  | none, _, _ => rfl
  | some (.schema ⟨_, _, fields, _⟩), _, _ => by
    rw [OpenAI.strictifyShape, Retention.shape, Retention.shape,
      retention_strictifyFields fields]
    rfl
  | some (.inline fields _), _, _ => by
    rw [OpenAI.strictifyShape, Retention.shape, Retention.shape,
      retention_strictifyFields fields]
    rfl
  | some (.map values), _, _ => by
    rw [OpenAI.strictifyShape, Retention.shape, Retention.shape]
    cases values with
    | boolean b => cases b <;> rfl
    | _ => rfl
  termination_by structural shape => shape

theorem retention_strictifyItems : ∀ (items : Option Items) (name : String),
    Provider.ollama.retention.items name (OpenAI.strictifyItems items)
      = Provider.openAI.retention.items name items
  | none, _ => rfl
  | some (.schema ⟨_, _, fields, _⟩), _ => by
    rw [OpenAI.strictifyItems, Retention.items, Retention.items,
      retention_strictifyFields fields]
  | some (.fragment _), _ => rfl
  termination_by structural items => items

end

end StructuredOutput
