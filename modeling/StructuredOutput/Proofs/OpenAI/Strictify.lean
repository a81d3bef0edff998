import StructuredOutput.Provider
import StructuredOutput.Proofs.OpenAI.Passes
import StructuredOutput.Proofs.Rules
import StructuredOutput.Proofs.Schema.Levels

/-!
# Strict schemas

The rules of the OpenAI dialect as an operation on schemas. `strictify` makes every field
required, takes its bounds and its default, closes every nested object and puts every
fragment through both passes. The main statement is that the plain dialect writes a
strictified schema exactly as the OpenAI dialect writes the schema itself: the last pass
over the document takes away the bounds of declared fields, cleans the fragments, and does
nothing else.
-/

namespace StructuredOutput.OpenAI

open Json (Value)

/-! ## Strictifying -/

/-- The attributes of a field that is required and has neither bounds nor a default. -/
def strictifyAttributes (a : Attributes) : Attributes :=
  { a with required := true, minimum := none, maximum := none, default := none }

/-- A fragment after both passes. -/
def strictifyFragment (fragment : Value) : Value := withoutBounds (strict fragment)

mutual

def strictifyFields : List (String × Field) → Entries Field
  | [] => []
  | (name, f) :: rest => (name, strictifyField f) :: strictifyFields rest
  termination_by structural fields => fields

/-- The field with its attributes, and everything nested in it, made strict. -/
def strictifyField : Field → Field
  | ⟨attributes, shape, items⟩ =>
    ⟨strictifyAttributes attributes, strictifyShape shape, strictifyItems items⟩
  termination_by structural f => f

def strictifyShape : Option Shape → Option Shape
  | none => none
  | some (.schema ⟨name, description, fields, _⟩) =>
    some (.schema ⟨name, description, strictifyFields fields, false⟩)
  | some (.inline fields _) => some (.inline (strictifyFields fields) false)
  | some (.map values) => some (.map (strictifyFragment values))
  termination_by structural shape => shape

def strictifyItems : Option Items → Option Items
  | none => none
  | some (.schema ⟨name, description, fields, _⟩) =>
    some (.schema ⟨name, description, strictifyFields fields, false⟩)
  | some (.fragment fragment) => some (.fragment (strictifyFragment fragment))
  termination_by structural items => items

end

/-- The schema with every field made strict. Its own flag for extra names is not nested and
stays. -/
def strictify (s : Schema) : Schema := { s with fields := strictifyFields s.fields }

theorem strictifyFields_eq (fields : Entries Field) :
    strictifyFields fields = fields.mapValues fun _ => strictifyField := by
  induction fields with
  | nil => rfl
  | cons e rest ih => simp [strictifyFields, ih]

@[simp] theorem names_strictifyFields (fields : Entries Field) :
    (strictifyFields fields).names = fields.names := by
  rw [strictifyFields_eq, Entries.names_mapValues]

@[simp] theorem attributes_strictifyField (f : Field) :
    (strictifyField f).attributes = strictifyAttributes f.attributes := by
  cases f
  rfl

/-! ## Fragments, level by level -/

/-- Both passes over a level. -/
def strictifyLevel (level : Entries Value) : Entries Value :=
  levelWithoutBounds (tighten (level.mapValues (strictMember (describesObject level))))

theorem strictifyFragment_object (level : Entries Value) :
    strictifyFragment (.object level) = .object (strictifyLevel level) := by
  rw [strictifyFragment, strict_object]
  rfl

@[simp] theorem describesObject_strictifyLevel (level : Entries Value) :
    describesObject (strictifyLevel level) = describesObject level := by
  have hstrict := transparent_strictMember (describesObject level)
  rw [strictifyLevel, transparent_levelWithoutBounds.describesObject,
    describesObject_tighten, hstrict.describesObject]

theorem propertyNames_strictifyLevel (level : Entries Value) :
    (Json.object? "properties" (strictifyLevel level)).map Entries.names
      = (Json.object? "properties" level).map Entries.names := by
  have hstrict := transparent_strictMember (describesObject level)
  rw [strictifyLevel, transparent_levelWithoutBounds.propertyNames, properties_tighten,
    hstrict.propertyNames]

/-! ## What is required -/

/-- Strict mode requires every field. -/
theorem namesWhere_demands (fields : Entries Field) :
    Schema.namesWhere rules.demands fields = fields.names :=
  congrArg Entries.names (List.filter_eq_self.mpr fun _ _ => rfl)

theorem required_of_mem_strictifyFields {fields : Entries Field} {e : String × Field}
    (he : e ∈ strictifyFields fields) : e.2.attributes.required = true := by
  rw [strictifyFields_eq] at he
  obtain ⟨d, -, rfl⟩ := Entries.mem_mapValues.mp he
  rw [attributes_strictifyField]
  rfl

/-- The plain dialect requires every field that is made strict. -/
theorem namesWhere_strictifyFields (fields : Entries Field) :
    Schema.namesWhere Ollama.rules.demands (strictifyFields fields) = fields.names := by
  have hall : ∀ e ∈ strictifyFields fields, Ollama.rules.demands e.2.attributes :=
    fun _ he => required_of_mem_strictifyFields he
  rw [Schema.namesWhere, List.filter_eq_self.mpr hall, names_strictifyFields]

/-- In other words, every property that it writes of them. -/
theorem namesWhere_eq_names_properties (fields : Entries Field) :
    Schema.namesWhere Ollama.rules.demands (strictifyFields fields)
      = (Ollama.rules.properties (strictifyFields fields)).names := by
  rw [namesWhere_strictifyFields, Rules.names_properties, names_strictifyFields]

/-! ## The cleaning pass over a compiled document -/

@[simp] theorem levelWithoutBounds_append (es fs : Entries Value) :
    levelWithoutBounds (es ++ fs) = levelWithoutBounds es ++ levelWithoutBounds fs := by
  simp [levelWithoutBounds_eq, Entries.keepNames, Entries.mapValues]

/-- Of the keywords of a field, the pass takes the bounds. -/
theorem levelWithoutBounds_keywords (a : Attributes) :
    levelWithoutBounds a.keywords = (strictifyAttributes a).keywords := by
  have hdescription (d : Option String) :
      levelWithoutBounds (descriptionMember d) = descriptionMember d := by
    cases d with
    | none => rfl
    | some d =>
      by_cases h : d.isEmpty <;> simp [descriptionMember, h, levelWithoutBounds, isBound]
  have hchoices (vs : List Value) :
      levelWithoutBounds (nonemptyMember "enum" vs) = nonemptyMember "enum" vs := by
    cases vs <;> rfl
  have hbound (name : String) (h : isBound name) (b : Option Json.Number) :
      levelWithoutBounds (boundMember name b) = [] := by
    cases b <;> simp [boundMember, levelWithoutBounds, h]
  -- On the right there is no bound to write, on the left both are taken away.
  have hmin : (strictifyAttributes a).minimum? = none := ite_self none
  have hmax : (strictifyAttributes a).maximum? = none := ite_self none
  rw [Attributes.keywords_eq, Attributes.keywords_eq, hmin, hmax]
  simp only [levelWithoutBounds_append, hdescription, hchoices, hbound "minimum" rfl,
    hbound "maximum" rfl]
  rfl

/-- The dialect writes no default. -/
theorem defaultKeyword_rules (a : Attributes) : rules.defaultKeyword a = [] := by
  cases h : a.default <;> simp [Rules.defaultKeyword, h, rules]

/-- Cleaning an object on its own cleans its properties. -/
theorem withoutBounds_standalone (required : List String) (properties : Entries Value) :
    withoutBounds (rules.standalone required properties)
      = Ollama.rules.standalone required
        (properties.mapValues fun _ => withoutBounds) := by
  simp [Rules.standalone, rules, Ollama.rules, withoutBounds, levelWithoutBounds, isBound,
    propertiesWithoutBounds, definitionsWithoutBounds_eq]

/-- Cleaning the keywords of a nested object cleans its properties. -/
theorem levelWithoutBounds_nested (required : List String) (properties : Entries Value)
    (extra : Bool) :
    levelWithoutBounds (rules.nested required properties extra)
      = Ollama.rules.nested required (properties.mapValues fun _ => withoutBounds)
        false := by
  have hrequired : levelWithoutBounds
        (nonemptyMember "required" (required.map Value.string))
      = nonemptyMember "required" (required.map Value.string) := by
    cases required <;> rfl
  rw [Rules.nested, List.cons_append, levelWithoutBounds, levelWithoutBounds_append,
    hrequired]
  simp [rules, Ollama.rules, Rules.nested, levelWithoutBounds, isBound,
    propertiesWithoutBounds, definitionsWithoutBounds_eq, withoutBounds]

-- The recursion of `Rules.compile`, with the pass pushed inwards at each level.
mutual

theorem cleaned_properties : ∀ fields : List (String × Field),
    (rules.properties fields).mapValues (fun _ => withoutBounds)
      = Ollama.rules.properties (strictifyFields fields)
  | [] => rfl
  | (name, f) :: rest => by
    rw [Rules.properties, Entries.mapValues_cons, cleaned_field f, cleaned_properties rest,
      strictifyFields, Rules.properties]
  termination_by structural fields => fields

theorem cleaned_field : ∀ f : Field,
    withoutBounds (rules.field f) = Ollama.rules.field (strictifyField f)
  | ⟨attributes, shape, items⟩ => by
    have hshape := cleaned_shape shape
    have hitems := cleaned_items items
    have hdefault : Ollama.rules.defaultKeyword (strictifyAttributes attributes)
        = [] := rfl
    rw [Rules.field, strictifyField, Rules.field, withoutBounds, levelWithoutBounds_append,
      levelWithoutBounds_append, levelWithoutBounds_keywords,
      defaultKeyword_rules, hdefault]
    cases h : attributes.kind <;>
      simp [strictifyAttributes, h, hshape, hitems, levelWithoutBounds]
  termination_by structural f => f

theorem cleaned_shape : ∀ shape : Option Shape,
    levelWithoutBounds (rules.shape shape) = Ollama.rules.shape (strictifyShape shape)
  | none => rfl
  | some (.schema ⟨_, _, fields, _⟩) => by
    rw [Rules.shape, levelWithoutBounds_nested, cleaned_properties fields,
      namesWhere_demands, strictifyShape, Rules.shape, namesWhere_strictifyFields]
  | some (.inline fields _) => by
    rw [Rules.shape, levelWithoutBounds_nested, cleaned_properties fields,
      namesWhere_demands, strictifyShape, Rules.shape, namesWhere_strictifyFields]
  | some (.map _) => rfl
  termination_by structural shape => shape

theorem cleaned_items : ∀ items : Option Items,
    levelWithoutBounds (rules.items items) = Ollama.rules.items (strictifyItems items)
  | none => rfl
  | some (.schema ⟨_, _, fields, _⟩) => by
    rw [Rules.items, strictifyItems, Rules.items, namesWhere_strictifyFields,
      ← cleaned_properties fields, ← withoutBounds_standalone, namesWhere_demands]
    rfl
  | some (.fragment _) => rfl
  termination_by structural items => items

end

/-- The document of the dialect is the plain document of the strictified schema. -/
theorem rules_compile (s : Schema) :
    rules.compile s = Ollama.rules.compile (strictify s) := by
  have hfinish : rules.finish = withoutBounds := rfl
  rw [Rules.compile, Rules.compile, hfinish, withoutBounds_standalone, cleaned_properties,
    strictify, namesWhere_demands, namesWhere_strictifyFields]
  rfl

/-- Compiling for OpenAI is compiling the strictified schema for Ollama. -/
theorem compile_openAI (s : Schema) :
    Provider.openAI.compile s = Provider.ollama.compile (strictify s) :=
  rules_compile s

/-! ## Strictifying again -/

theorem strictifyFragment_strictifyFragment (fragment : Value) :
    strictifyFragment (strictifyFragment fragment) = strictifyFragment fragment := by
  rw [strictifyFragment, strictifyFragment, ← withoutBounds_strict, strict_strict,
    withoutBounds_withoutBounds]

mutual

theorem strictifyFields_strictifyFields : ∀ fields : List (String × Field),
    strictifyFields (strictifyFields fields) = strictifyFields fields
  | [] => rfl
  | (name, f) :: rest => by
    rw [strictifyFields, strictifyFields, strictifyField_strictifyField f,
      strictifyFields_strictifyFields rest]
  termination_by structural fields => fields

theorem strictifyField_strictifyField : ∀ f : Field,
    strictifyField (strictifyField f) = strictifyField f
  | ⟨attributes, shape, items⟩ => by
    rw [strictifyField, strictifyField, strictifyShape_strictifyShape shape,
      strictifyItems_strictifyItems items]
    rfl
  termination_by structural f => f

theorem strictifyShape_strictifyShape : ∀ shape : Option Shape,
    strictifyShape (strictifyShape shape) = strictifyShape shape
  | none => rfl
  | some (.schema ⟨_, _, fields, _⟩) => by
    rw [strictifyShape, strictifyShape, strictifyFields_strictifyFields fields]
  | some (.inline fields _) => by
    rw [strictifyShape, strictifyShape, strictifyFields_strictifyFields fields]
  | some (.map values) => by
    rw [strictifyShape, strictifyShape, strictifyFragment_strictifyFragment]
  termination_by structural shape => shape

theorem strictifyItems_strictifyItems : ∀ items : Option Items,
    strictifyItems (strictifyItems items) = strictifyItems items
  | none => rfl
  | some (.schema ⟨_, _, fields, _⟩) => by
    rw [strictifyItems, strictifyItems, strictifyFields_strictifyFields fields]
  | some (.fragment fragment) => by
    rw [strictifyItems, strictifyItems, strictifyFragment_strictifyFragment]
  termination_by structural items => items

end

theorem strictify_strictify (s : Schema) : strictify (strictify s) = strictify s := by
  rw [strictify, strictify, strictifyFields_strictifyFields]

/-! ## Conditions on strictified schemas -/

section

variable {P P' : Entries Field → Prop} {R R' : Value → Prop}

mutual

theorem fieldsHold_strictify (hP : ∀ fields, P fields → P' (strictifyFields fields))
    (hR : ∀ v, R v → R' (strictifyFragment v)) : ∀ {fields : List (String × Field)},
    FieldsHold P R fields → FieldsHold P' R' (strictifyFields fields)
  | [], _ => trivial
  | (_, _) :: _, h => ⟨fieldHolds_strictify hP hR h.1, fieldsHold_strictify hP hR h.2⟩
  termination_by structural fields => fields

theorem fieldHolds_strictify (hP : ∀ fields, P fields → P' (strictifyFields fields))
    (hR : ∀ v, R v → R' (strictifyFragment v)) : ∀ {f : Field},
    FieldHolds P R f → FieldHolds P' R' (strictifyField f)
  | ⟨_, _, _⟩, h => ⟨shapeHolds_strictify hP hR h.1, itemsHold_strictify hP hR h.2⟩
  termination_by structural f => f

theorem shapeHolds_strictify (hP : ∀ fields, P fields → P' (strictifyFields fields))
    (hR : ∀ v, R v → R' (strictifyFragment v)) : ∀ {shape : Option Shape},
    ShapeHolds P R shape → ShapeHolds P' R' (strictifyShape shape)
  | none, _ => trivial
  | some (.schema ⟨_, _, _, _⟩), h => ⟨hP _ h.1, fieldsHold_strictify hP hR h.2⟩
  | some (.inline _ _), h => ⟨hP _ h.1, fieldsHold_strictify hP hR h.2⟩
  | some (.map _), h => hR _ h
  termination_by structural shape => shape

theorem itemsHold_strictify (hP : ∀ fields, P fields → P' (strictifyFields fields))
    (hR : ∀ v, R v → R' (strictifyFragment v)) : ∀ {items : Option Items},
    ItemsHold P R items → ItemsHold P' R' (strictifyItems items)
  | none, _ => trivial
  | some (.schema ⟨_, _, _, _⟩), h => ⟨hP _ h.1, fieldsHold_strictify hP hR h.2⟩
  | some (.fragment _), h => hR _ h
  termination_by structural items => items

end

theorem holds_strictify (hP : ∀ fields, P fields → P' (strictifyFields fields))
    (hR : ∀ v, R v → R' (strictifyFragment v)) {s : Schema} (h : s.Holds P R) :
    (strictify s).Holds P' R' :=
  ⟨hP _ h.1, fieldsHold_strictify hP hR h.2⟩

end

theorem flagsByName_strictifyFields (fields : Entries Field) :
    FlagsByName (strictifyFields fields) := by
  intro e he d hd _
  rw [required_of_mem_strictifyFields he, required_of_mem_strictifyFields hd]

end StructuredOutput.OpenAI
