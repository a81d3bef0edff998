import StructuredOutput.Schema.Basic

/-!
# Equality of schemas up to order

Two schemas are equivalent if they differ only in the order of fields and of object
members. The order of choices counts.
-/

namespace StructuredOutput

/-- Whether two optional things are both missing, or both there and related. -/
def optionEquiv (related : α → β → Bool) : Option α → Option β → Bool
  | none, none => true
  | some a, some b => related a b
  | _, _ => false

/-- Whether the attributes are equal up to the order of object members. -/
def Attributes.equiv (a b : Attributes) : Bool :=
  a.kind == b.kind && a.description == b.description && a.required == b.required
    && optionEquiv Json.Value.equivItems a.choices b.choices
    && optionEquiv Json.Number.equiv a.minimum b.minimum
    && optionEquiv Json.Number.equiv a.maximum b.maximum
    && optionEquiv Json.Value.equiv a.default b.default

mutual

/-- Whether two schemas are equal up to order. -/
def Schema.equiv : Schema → Schema → Bool
  | ⟨name, description, fields, extra⟩, t =>
    name == t.name && description == t.description && extra == t.allowsExtra
      && fields.length == t.fields.length && fieldsEquiv fields t.fields
  termination_by structural s => s

/-- Whether every field on the left has its equal on the right. -/
def fieldsEquiv : List (String × Field) → Entries Field → Bool
  | [], _ => true
  | (name, f) :: rest, others =>
    (match others.lookup name with
      | some g => Field.equiv f g
      | none => false) && fieldsEquiv rest others
  termination_by structural fields => fields

/-- Whether two fields are equal up to order. -/
def Field.equiv : Field → Field → Bool
  | ⟨attributes, shape, items⟩, g =>
    attributes.equiv g.attributes && shapeEquiv shape g.shape && itemsEquiv items g.items
  termination_by structural f => f

def shapeEquiv : Option Shape → Option Shape → Bool
  | none, none => true
  | some (.schema s), some (.schema t) => Schema.equiv s t
  | some (.inline fields extra), some (.inline others extra') =>
    extra == extra' && fields.length == others.length && fieldsEquiv fields others
  | some (.map v), some (.map w) => v.equiv w
  | _, _ => false
  termination_by structural shape => shape

def itemsEquiv : Option Items → Option Items → Bool
  | none, none => true
  | some (.schema s), some (.schema t) => Schema.equiv s t
  | some (.fragment v), some (.fragment w) => v.equiv w
  | _, _ => false
  termination_by structural items => items

end

/-- Whether two schemas have the same fields up to order. -/
def Schema.sameFields (s t : Schema) : Bool :=
  s.fields.length == t.fields.length && fieldsEquiv s.fields t.fields

end StructuredOutput
