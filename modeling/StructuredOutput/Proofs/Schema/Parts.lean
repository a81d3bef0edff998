import StructuredOutput.Proofs.Schema.Levels

/-!
# Rewriting the parts of a schema

`Schema.mapParts` rewrites the attributes of every field and every hand-authored value, at
every level. Names, orders, flags and the forms of shapes and items stay as they are. The
main statement, `Schema.mapParts_eq_self_iff`, is that a schema is left as it was just if
each of its parts is.
-/

namespace StructuredOutput

open Json (Value)

section

variable (f : Attributes → Attributes) (g : Value → Value)

mutual

def mapPartsInFields : List (String × Field) → Entries Field
  | [] => []
  | (name, field) :: rest => (name, mapPartsInField field) :: mapPartsInFields rest
  termination_by structural fields => fields

def mapPartsInField : Field → Field
  | ⟨attributes, shape, items⟩ =>
    ⟨f attributes, mapPartsInShape shape, mapPartsInItems items⟩
  termination_by structural field => field

def mapPartsInShape : Option Shape → Option Shape
  | none => none
  | some (.schema ⟨name, description, fields, extra⟩) =>
    some (.schema ⟨name, description, mapPartsInFields fields, extra⟩)
  | some (.inline fields extra) => some (.inline (mapPartsInFields fields) extra)
  | some (.map values) => some (.map (g values))
  termination_by structural shape => shape

def mapPartsInItems : Option Items → Option Items
  | none => none
  | some (.schema ⟨name, description, fields, extra⟩) =>
    some (.schema ⟨name, description, mapPartsInFields fields, extra⟩)
  | some (.fragment fragment) => some (.fragment (g fragment))
  termination_by structural items => items

end

/-- The schema with `f` applied to the attributes of every field and `g` to every
hand-authored value: to what is said of the values of a map, and to fragments of items. -/
def Schema.mapParts (s : Schema) : Schema :=
  { s with fields := mapPartsInFields f g s.fields }

end

section

variable {f : Attributes → Attributes} {g : Value → Value}

theorem mapPartsInFields_eq (fields : Entries Field) :
    mapPartsInFields f g fields = fields.mapValues fun _ => mapPartsInField f g := by
  induction fields with
  | nil => rfl
  | cons e rest ih => simp [mapPartsInFields, ih]

/-- The names that a test picks stay if the test does not see what changes. -/
theorem namesWhere_mapPartsInFields {test : Attributes → Bool}
    (h : ∀ a, test (f a) = test a) (fields : Entries Field) :
    Schema.namesWhere test (mapPartsInFields f g fields)
      = Schema.namesWhere test fields := by
  rw [mapPartsInFields_eq]
  apply Schema.namesWhere_mapValues
  intro name field
  cases field
  exact h _

/-! ## Schemas that are left as they are -/

/-- The attributes of every field of a level are left as they are. -/
def KeptBy (f : Attributes → Attributes) (fields : Entries Field) : Prop :=
  ∀ e ∈ fields, f e.2.attributes = e.2.attributes

theorem levelHolds_keptBy_cons {R : Value → Prop} {name : String} {field : Field}
    {rest : Entries Field} :
    LevelHolds (KeptBy f) R ((name, field) :: rest)
      ↔ (f field.attributes = field.attributes ∧ FieldHolds (KeptBy f) R field)
        ∧ LevelHolds (KeptBy f) R rest := by
  simp only [LevelHolds, KeptBy, FieldsHold, List.forall_mem_cons, and_and_and_comm]

mutual

theorem mapPartsInFields_eq_self_iff : ∀ fields : List (String × Field),
    mapPartsInFields f g fields = fields ↔ LevelHolds (KeptBy f) (fun v => g v = v) fields
  | [] => by simp [mapPartsInFields, LevelHolds, KeptBy, FieldsHold]
  | (name, field) :: rest => by
    rw [levelHolds_keptBy_cons, ← mapPartsInField_eq_self_iff field,
      ← mapPartsInFields_eq_self_iff rest]
    simp [mapPartsInFields]
  termination_by structural fields => fields

theorem mapPartsInField_eq_self_iff : ∀ field : Field,
    mapPartsInField f g field = field ↔ f field.attributes = field.attributes
      ∧ FieldHolds (KeptBy f) (fun v => g v = v) field
  | ⟨attributes, shape, items⟩ => by
    rw [FieldHolds, ← mapPartsInShape_eq_self_iff shape,
      ← mapPartsInItems_eq_self_iff items]
    simp [mapPartsInField]
  termination_by structural field => field

theorem mapPartsInShape_eq_self_iff : ∀ shape : Option Shape,
    mapPartsInShape f g shape = shape ↔ ShapeHolds (KeptBy f) (fun v => g v = v) shape
  | none => by simp [mapPartsInShape, ShapeHolds]
  | some (.schema ⟨_, _, fields, _⟩) => by
    have hfields := mapPartsInFields_eq_self_iff fields
    simpa [mapPartsInShape, ShapeHolds, LevelHolds] using hfields
  | some (.inline fields _) => by
    have hfields := mapPartsInFields_eq_self_iff fields
    simpa [mapPartsInShape, ShapeHolds, LevelHolds] using hfields
  | some (.map _) => by simp [mapPartsInShape, ShapeHolds]
  termination_by structural shape => shape

theorem mapPartsInItems_eq_self_iff : ∀ items : Option Items,
    mapPartsInItems f g items = items ↔ ItemsHold (KeptBy f) (fun v => g v = v) items
  | none => by simp [mapPartsInItems, ItemsHold]
  | some (.schema ⟨_, _, fields, _⟩) => by
    have hfields := mapPartsInFields_eq_self_iff fields
    simpa [mapPartsInItems, ItemsHold, LevelHolds] using hfields
  | some (.fragment _) => by simp [mapPartsInItems, ItemsHold]
  termination_by structural items => items

end

theorem Schema.mapParts_eq_self_iff {s : Schema} :
    s.mapParts f g = s ↔ s.Holds (KeptBy f) fun v => g v = v := by
  obtain ⟨name, description, fields, extra⟩ := s
  have hfields := mapPartsInFields_eq_self_iff (f := f) (g := g) fields
  simpa [mapParts, Holds, LevelHolds] using hfields

end

end StructuredOutput
