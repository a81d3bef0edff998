import StructuredOutput.Proofs.Rules
import StructuredOutput.Provider

/-!
# Schemas of one meaning

Much of what a schema holds does not get into a document: names and descriptions of
schemas, the flag of a schema that stands on its own, whether fields are declared in place,
what is empty, and what the kind of a field gives no meaning to. `Schema.Alike` relates
schemas that differ in nothing else, at any depth. The main statement is that no dialect
tells alike schemas apart, and that they have the same optional fields.
-/

namespace StructuredOutput

open Json (Value)

/-! ## Alike schemas -/

/-- Attributes that say the same. A missing description or list of choices says no more
than an empty one, and a bound says something only where the kind is numeric. -/
structure Attributes.Alike (a b : Attributes) : Prop where
  kind : a.kind = b.kind
  required : a.required = b.required
  description : a.description.getD "" = b.description.getD ""
  choices : a.choices.getD [] = b.choices.getD []
  minimum : a.kind.isNumeric → a.minimum = b.minimum
  maximum : a.kind.isNumeric → a.maximum = b.maximum
  default : a.default = b.default

mutual

/-- Fields of the same names in the same order, each like the other. -/
inductive FieldsAlike : List (String × Field) → List (String × Field) → Prop
  | nil : FieldsAlike [] []
  | cons (name : String) {f g : Field} {fs gs : List (String × Field)}
    (field : FieldAlike f g) (rest : FieldsAlike fs gs) :
    FieldsAlike ((name, f) :: fs) ((name, g) :: gs)

/-- Fields that say the same. The shape is compared for objects only, where a missing one
is empty and closed, and the items for arrays only. -/
inductive FieldAlike : Field → Field → Prop
  | mk {f g : Field} (attributes : f.attributes.Alike g.attributes)
    (shape : f.attributes.kind = .object →
      ShapeAlike (f.shape.getD .empty) (g.shape.getD .empty))
    (items : f.attributes.kind = .array → ItemsAlike f.items g.items) : FieldAlike f g

/-- Shapes that say the same, whether fields are declared in place or by a schema. -/
inductive ShapeAlike : Shape → Shape → Prop
  | declared {a b : Shape} {fs gs : List (String × Field)} (left : a.fields? = some fs)
    (right : b.fields? = some gs) (fields : FieldsAlike fs gs)
    (extra : a.allowsExtra = b.allowsExtra) : ShapeAlike a b
  | map (values : Value) : ShapeAlike (.map values) (.map values)

/-- Items that say the same. -/
inductive ItemsAlike : Option Items → Option Items → Prop
  | none : ItemsAlike none none
  | schema {s t : Schema} (fields : FieldsAlike s.fields t.fields) :
    ItemsAlike (some (.schema s)) (some (.schema t))
  | fragment (fragment : Value) :
    ItemsAlike (some (.fragment fragment)) (some (.fragment fragment))

end

theorem FieldAlike.attributes {f g : Field} :
    FieldAlike f g → f.attributes.Alike g.attributes
  | .mk attributes _ _ => attributes

/-- Schemas with alike fields. Their names, descriptions and flags may differ. -/
def Schema.Alike (s t : Schema) : Prop := FieldsAlike s.fields t.fields

/-! ## What is written of attributes -/

theorem descriptionMember_eq (description : Option String) :
    descriptionMember description =
      if (description.getD "").isEmpty then []
      else [("description", .string (description.getD ""))] := by
  cases description <;> rfl

namespace Attributes.Alike

variable {a b : Attributes}

theorem minimum?_eq (h : a.Alike b) : a.minimum? = b.minimum? := by
  rw [minimum?, minimum?, ← h.kind]
  exact ite_congr rfl h.minimum fun _ => rfl

theorem maximum?_eq (h : a.Alike b) : a.maximum? = b.maximum? := by
  rw [maximum?, maximum?, ← h.kind]
  exact ite_congr rfl h.maximum fun _ => rfl

theorem keywords_eq (h : a.Alike b) : a.keywords = b.keywords := by
  rw [Attributes.keywords_eq, Attributes.keywords_eq, descriptionMember_eq,
    descriptionMember_eq, h.kind, h.description, h.choices, h.minimum?_eq, h.maximum?_eq]

theorem defaultKeyword_eq (h : a.Alike b) (r : Rules) :
    r.defaultKeyword a = r.defaultKeyword b := by
  rw [Rules.defaultKeyword, Rules.defaultKeyword, h.default]

end Attributes.Alike

/-- Whether a field is demanded depends on its flag, if on anything. -/
theorem Provider.demands_alike (p : Provider) {a b : Attributes} (h : a.Alike b) :
    p.rules.demands a = p.rules.demands b := by
  cases p with
  | openAI => rfl
  | _ => exact h.required

theorem namesWhere_alike {test : Attributes → Bool}
    (htest : ∀ {a b : Attributes}, a.Alike b → test a = test b) :
    ∀ {fs gs : List (String × Field)}, FieldsAlike fs gs →
      Schema.namesWhere test fs = Schema.namesWhere test gs
  | _, _, .nil => rfl
  | _, _, .cons name field rest => by
    have hrest := namesWhere_alike htest rest
    unfold Schema.namesWhere at hrest ⊢
    rw [List.filter_cons, List.filter_cons, htest field.attributes]
    split
    · rw [Entries.names_cons, Entries.names_cons, hrest]
    · exact hrest
  termination_by structural _ _ h => h

/-! ## What is written of shapes -/

namespace Rules

variable (r : Rules)

theorem shape_getD (shape : Option Shape) :
    r.shape (some (shape.getD .empty)) = r.shape shape := by
  cases shape <;> rfl

/-- Of declared fields it does not matter how they are declared. -/
theorem shape_of_fields? {shape : Shape} {fields : Entries Field}
    (h : shape.fields? = some fields) :
    r.shape (some shape) = r.nested (Schema.namesWhere r.demands fields)
      (r.properties fields)
      shape.allowsExtra := by
  cases shape with
  | map values => cases h
  | schema s =>
    obtain ⟨_, _, _, _⟩ := s
    cases h
    rfl
  | inline fields extra =>
    cases h
    rfl

theorem items_schema (s : Schema) :
    r.items (some (.schema s))
      = [("items", r.standalone (Schema.namesWhere r.demands s.fields)
        (r.properties s.fields))] := by
  cases s
  rfl

end Rules

/-! ## Documents of alike schemas -/

section

variable {r : Rules}

-- By recursion on what makes the schemas alike, which follows the recursion of the
-- compiler.
mutual

theorem properties_alike
    (hr : ∀ {a b : Attributes}, a.Alike b → r.demands a = r.demands b) :
    ∀ {fs gs : List (String × Field)}, FieldsAlike fs gs →
      r.properties fs = r.properties gs
  | _, _, .nil => rfl
  | _, _, .cons name field rest => by
    rw [Rules.properties, Rules.properties, field_alike hr field, properties_alike hr rest]
  termination_by structural _ _ h => h

theorem field_alike (hr : ∀ {a b : Attributes}, a.Alike b → r.demands a = r.demands b) :
    ∀ {f g : Field}, FieldAlike f g → r.field f = r.field g
  | f, g, .mk attributes shape items => by
    have hshape := fun hkind => shape_alike hr (shape hkind)
    have hitems := fun hkind => items_alike hr (items hkind)
    have hbody : r.body f = r.body g := by
      rw [Rules.body, Rules.body, ← attributes.kind]
      cases hkind : f.attributes.kind with
      | object =>
        show r.shape f.shape = r.shape g.shape
        rw [← r.shape_getD f.shape, hshape hkind, r.shape_getD]
      | array => exact hitems hkind
      | _ => rfl
    rw [r.field_eq, r.field_eq, Rules.fieldLevel, Rules.fieldLevel, attributes.keywords_eq,
      attributes.defaultKeyword_eq, hbody]
  termination_by structural _ _ h => h

theorem shape_alike (hr : ∀ {a b : Attributes}, a.Alike b → r.demands a = r.demands b) :
    ∀ {a b : Shape}, ShapeAlike a b → r.shape (some a) = r.shape (some b)
  | _, _, .declared left right fields extra => by
    rw [r.shape_of_fields? left, r.shape_of_fields? right, properties_alike hr fields,
      namesWhere_alike hr fields, extra]
  | _, _, .map _ => rfl
  termination_by structural _ _ h => h

theorem items_alike (hr : ∀ {a b : Attributes}, a.Alike b → r.demands a = r.demands b) :
    ∀ {a b : Option Items}, ItemsAlike a b → r.items a = r.items b
  | _, _, .none => rfl
  | _, _, .schema fields => by
    rw [r.items_schema, r.items_schema, properties_alike hr fields,
      namesWhere_alike hr fields]
  | _, _, .fragment _ => rfl
  termination_by structural _ _ h => h

end

end

/-! ## Optional fields of alike schemas -/

theorem pathsInShape_getD (path : String) (shape : Option Shape) :
    pathsInShape path (some (shape.getD .empty)) = pathsInShape path shape := by
  cases shape <;> rfl

theorem pathsInShape_of_fields? (path : String) {shape : Shape} {fields : Entries Field}
    (h : shape.fields? = some fields) :
    pathsInShape path (some shape) = optionalPaths (path ++ ".") fields := by
  cases shape with
  | map values => cases h
  | schema s =>
    obtain ⟨_, _, _, _⟩ := s
    cases h
    rfl
  | inline fields extra =>
    cases h
    rfl

theorem pathsInItems_schema (path : String) (s : Schema) :
    pathsInItems path (some (.schema s)) = optionalPaths (path ++ "[].") s.fields := by
  cases s
  rfl

theorem pathsInField_eq (path : String) (f : Field) :
    pathsInField path f =
      match f.attributes.kind with
      | .object => pathsInShape path f.shape
      | .array => pathsInItems path f.items
      | _ => [] := by
  cases f
  rfl

mutual

theorem optionalPaths_alike : ∀ {fs gs : List (String × Field)}, FieldsAlike fs gs →
    ∀ parent : String, optionalPaths parent fs = optionalPaths parent gs
  | _, _, .nil, _ => rfl
  | _, _, .cons name field rest, parent => by
    rw [optionalPaths, optionalPaths, pathsInField_alike field, optionalPaths_alike rest,
      field.attributes.required]
  termination_by structural _ _ h => h

theorem pathsInField_alike : ∀ {f g : Field}, FieldAlike f g →
    ∀ path : String, pathsInField path f = pathsInField path g
  | f, g, .mk attributes shape items, path => by
    have hshape := fun hkind => pathsInShape_alike (shape hkind) path
    have hitems := fun hkind => pathsInItems_alike (items hkind) path
    rw [pathsInField_eq, pathsInField_eq, ← attributes.kind]
    cases hkind : f.attributes.kind with
    | object =>
      show pathsInShape path f.shape = pathsInShape path g.shape
      rw [← pathsInShape_getD path f.shape, hshape hkind, pathsInShape_getD]
    | array => exact hitems hkind
    | _ => rfl
  termination_by structural _ _ h => h

theorem pathsInShape_alike : ∀ {a b : Shape}, ShapeAlike a b →
    ∀ path : String, pathsInShape path (some a) = pathsInShape path (some b)
  | _, _, .declared left right fields _, path => by
    rw [pathsInShape_of_fields? path left, pathsInShape_of_fields? path right,
      optionalPaths_alike fields]
  | _, _, .map _, _ => rfl
  termination_by structural _ _ h => h

theorem pathsInItems_alike : ∀ {a b : Option Items}, ItemsAlike a b →
    ∀ path : String, pathsInItems path a = pathsInItems path b
  | _, _, .none, _ => rfl
  | _, _, .schema fields, path => by
    rw [pathsInItems_schema, pathsInItems_schema, optionalPaths_alike fields]
  | _, _, .fragment _, _ => rfl
  termination_by structural _ _ h => h

end

/-- No dialect tells alike schemas apart, and their optional fields are the same. -/
theorem Schema.Alike.documents_eq {s t : Schema} (h : s.Alike t) :
    (∀ p : Provider, p.compile s = p.compile t) ∧ s.optionalFields = t.optionalFields := by
  refine ⟨fun p => ?_, optionalPaths_alike h ""⟩
  show p.rules.compile s = p.rules.compile t
  rw [Rules.compile, Rules.compile, properties_alike p.demands_alike h,
    namesWhere_alike p.demands_alike h]

/-- A schema that says what it has to and nothing else. -/
def terse : Schema where
  name := ""
  description := ""
  fields := [
    ("customer", {
      attributes := { kind := .object }
      shape := some
        (.inline [("email", ⟨{ kind := .string, required := false }, none, none⟩)] true)
      items := none }),
    ("lines", {
      attributes := { kind := .array }
      shape := none
      items := some
        (.schema ⟨"", "", [("options", ⟨{ kind := .object }, none, none⟩)], false⟩) })]
  allowsExtra := false

/-- The same with names and descriptions, other flags where they do not count, a schema for
the customer, what is empty spelled out, and bounds, a shape and items of a text. -/
def wordy : Schema where
  name := "Order"
  description := "What a customer orders"
  fields := [
    ("customer", {
      attributes := {
        kind := .object, description := some "", minimum := some (.integer 1) }
      shape := some (.schema ⟨"Customer", "Who orders", [
        ("email", {
          attributes := {
            kind := .string, required := false, choices := some [],
            maximum := some (.integer 9) }
          shape := some (.map .null)
          items := some (.fragment .null) })], true⟩)
      items := none }),
    ("lines", {
      attributes := { kind := .array }
      shape := none
      items := some (.schema ⟨"Line", "What is ordered", [
        ("options", ⟨{ kind := .object }, some .empty, none⟩)], true⟩) })]
  allowsExtra := true

theorem alike_terse_wordy : terse.Alike wordy := by
  have hemail : FieldAlike ⟨{ kind := .string, required := false }, none, none⟩ {
      attributes := {
        kind := .string, required := false, choices := some [],
        maximum := some (.integer 9) }
      shape := some (.map .null)
      items := some (.fragment .null) } :=
    .mk ⟨rfl, rfl, rfl, rfl, nofun, nofun, rfl⟩ nofun nofun
  have hoptions : FieldAlike ⟨{ kind := .object }, none, none⟩
      ⟨{ kind := .object }, some .empty, none⟩ :=
    .mk ⟨rfl, rfl, rfl, rfl, nofun, nofun, rfl⟩ (fun _ => .declared rfl rfl .nil rfl) nofun
  refine .cons _ (.mk ⟨rfl, rfl, rfl, rfl, nofun, nofun, rfl⟩ (fun _ => ?_) nofun) (.cons _
    (.mk ⟨rfl, rfl, rfl, rfl, nofun, nofun, rfl⟩ nofun fun _ => ?_) .nil)
  · exact .declared rfl rfl (.cons _ hemail .nil) rfl
  · exact .schema (.cons _ hoptions .nil)

theorem documents_terse_wordy :
    (∀ p : Provider, p.compile terse = p.compile wordy)
      ∧ terse.optionalFields = ["customer.email"]
        ∧ wordy.optionalFields = ["customer.email"] := by
  obtain ⟨hdocuments, hpaths⟩ := Schema.Alike.documents_eq alike_terse_wordy
  have hterse : terse.optionalFields = ["customer.email"] := by decide
  exact ⟨hdocuments, hterse, hpaths ▸ hterse⟩

end StructuredOutput
