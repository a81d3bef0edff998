import StructuredOutput.Proofs.Schema.Document
import StructuredOutput.Proofs.Schema.NormalForm

/-!
# Reading compiled documents

A compiled document is read level by level as it was written: `Rules.Keeps` says of the
rules of a plain dialect that look-ups find in each level what is kept of the schema. The
main statement is that reading a compiled document gives the normal form of its schema.
-/

namespace StructuredOutput

open Json (Value)

/-! ## Rules that write what is kept -/

/-- The rules write a plain document, in which just this is kept. -/
structure Rules.Keeps (r : Rules) (k : Retention) : Prop where
  attributes : k.attributes = Attributes.settled
  demands : r.demands = (·.required)
  writesDefault : r.writesDefault
  finish : ∀ document, r.finish document = document
  fragment : r.fragment = k.fragment
  fragment_object : ∀ level, ∃ kept, k.fragment (.object level) = .object kept
  fragment_leaf : ∀ v, v.object? = none → k.fragment v = v
  extra_false : k.extra false = false
  /-- What closes a level is about extra names and the order of properties. -/
  lookup_closing : ∀ names keyword, keyword ≠ "additionalProperties" →
    keyword ≠ "propertyOrdering" → (r.closing names).lookup keyword = none
  lookup_nestedClosing : ∀ names extra keyword, keyword ≠ "additionalProperties" →
    keyword ≠ "propertyOrdering" → (r.nestedClosing names extra).lookup keyword = none
  allowsExtra_closing : ∀ names, Document.allowsExtra (r.closing names) = false
  extra_nestedClosing : ∀ names extra,
    (r.nestedClosing names extra).lookup "additionalProperties"
      = some (.boolean (k.extra extra))

theorem Anthropic.keeps : Anthropic.rules.Keeps Provider.anthropic.retention where
  attributes := rfl
  demands := rfl
  writesDefault := rfl
  finish _ := rfl
  fragment := rfl
  fragment_object level := ⟨level, rfl⟩
  fragment_leaf _ _ := rfl
  extra_false := rfl
  lookup_closing _ _ _ _ := rfl
  lookup_nestedClosing _ _ _ h _ := by simp [Anthropic.rules, Entries.lookup_cons, h]
  allowsExtra_closing _ := rfl
  extra_nestedClosing _ _ := rfl

theorem Gemini.keeps : Gemini.rules.Keeps Provider.gemini.retention where
  attributes := rfl
  demands := rfl
  writesDefault := rfl
  finish _ := rfl
  fragment := rfl
  fragment_object level := ⟨_, rfl⟩
  fragment_leaf _ h := Gemini.ordered_of_object?_eq_none h
  extra_false := rfl
  lookup_closing _ _ _ h := by simp [Gemini.rules, Entries.lookup_cons, h]
  lookup_nestedClosing _ _ _ ha ho := by simp [Gemini.rules, Entries.lookup_cons, ha, ho]
  allowsExtra_closing _ := rfl
  extra_nestedClosing _ _ := rfl

theorem Ollama.keeps : Ollama.rules.Keeps Provider.ollama.retention where
  attributes := rfl
  demands := rfl
  writesDefault := rfl
  finish _ := rfl
  fragment := rfl
  fragment_object level := ⟨level, rfl⟩
  fragment_leaf _ _ := rfl
  extra_false := rfl
  lookup_closing _ _ h _ := by simp [Ollama.rules, Entries.lookup_cons, h]
  lookup_nestedClosing _ _ _ h _ := by simp [Ollama.rules, Entries.lookup_cons, h]
  allowsExtra_closing _ := rfl
  extra_nestedClosing _ _ := rfl

/-! ## Reading attributes back -/

theorem Attributes.ne_of_mem_vocabulary {keyword other : String}
    (h : keyword ∈ Attributes.vocabulary) (ho : other ∉ Attributes.vocabulary) :
    keyword ≠ other := by
  rintro rfl
  exact ho h

namespace Rules

variable {r : Rules}

section

variable (a : Attributes) {body : Entries Value}
  (hbody : ∀ keyword ∈ Attributes.vocabulary, body.lookup keyword = none)

include hbody

theorem lookup_fieldLevel_of_mem {keyword : String} (h : keyword ∈ Attributes.vocabulary) :
    (r.fieldLevel a body).lookup keyword
      = (a.keywords.lookup keyword).or ((r.defaultKeyword a).lookup keyword) := by
  rw [fieldLevel, Entries.lookup_append, Entries.lookup_append, hbody keyword h,
    Option.or_none]

theorem lookup_type_fieldLevel :
    (r.fieldLevel a body).lookup "type" = some (.string a.kind.name) := by
  rw [lookup_fieldLevel_of_mem a hbody (by decide), a.lookup_keywords]
  rfl

theorem kindOf_fieldLevel : Document.kindOf (r.fieldLevel a body) = a.kind := by
  rw [Document.kindOf, Json.text?, lookup_type_fieldLevel a hbody]
  exact Kind.ofName_name a.kind

/-- A level describes an object just if its field is one. -/
theorem describesObject_fieldLevel :
    describesObject (r.fieldLevel a body) = decide (a.kind = .object) := by
  rw [describesObject, Json.text?, lookup_type_fieldLevel a hbody]
  cases a.kind <;> rfl

theorem description_fieldLevel :
    Json.text? "description" (r.fieldLevel a body) = a.settled.description := by
  rw [Json.text?, lookup_fieldLevel_of_mem a hbody (by decide), a.lookup_keywords,
    lookup_defaultKeyword]
  cases a.settled.description <;> rfl

theorem textOrEmpty_fieldLevel :
    Document.textOrEmpty "description" (r.fieldLevel a body) = a.description.getD "" := by
  rw [Document.textOrEmpty, description_fieldLevel a hbody]
  cases h : a.description with
  | none => simp [Attributes.settled, h]
  | some d => by_cases hd : d = "" <;> simp [Attributes.settled, h, hd, Option.filter]

theorem bound_fieldLevel {keyword : String} (h : keyword ∈ Attributes.vocabulary)
    (hdefault : keyword ≠ "default") {bound : Option Json.Number}
    (hbound : a.keywords.lookup keyword = bound.map Value.number) :
    Document.bound keyword (r.fieldLevel a body) = bound := by
  rw [Document.bound, lookup_fieldLevel_of_mem a hbody h, hbound, lookup_defaultKeyword]
  cases bound <;> simp [hdefault, Value.number?]

/-- Reading what is written of attributes settles them. -/
theorem attributesOf_fieldLevel (hwrites : r.writesDefault) :
    Document.attributesOf a.required (r.fieldLevel a body) = a.settled := by
  have hkind := kindOf_fieldLevel (r := r) a hbody
  have hchoices : ((r.fieldLevel a body).lookup "enum").bind Value.array?
      = a.settled.choices := by
    rw [lookup_fieldLevel_of_mem a hbody (by decide), a.lookup_keywords,
      lookup_defaultKeyword]
    cases a.settled.choices <;> rfl
  have hminimum : Document.bound "minimum" (r.fieldLevel a body) = a.minimum? :=
    bound_fieldLevel a hbody (by decide) (by decide) (a.lookup_keywords "minimum")
  have hmaximum : Document.bound "maximum" (r.fieldLevel a body) = a.maximum? :=
    bound_fieldLevel a hbody (by decide) (by decide) (a.lookup_keywords "maximum")
  have hdefault : (r.fieldLevel a body).lookup "default" = a.default := by
    rw [lookup_fieldLevel_of_mem a hbody (by decide), a.lookup_keywords,
      lookup_defaultKeyword]
    simp [hwrites]
  rw [Document.attributesOf, hkind, description_fieldLevel a hbody, hchoices, hminimum,
    hmaximum, hdefault]
  -- Without a meaning for the kind, bounds are neither written nor read.
  by_cases hnumeric : a.kind.isNumeric <;>
    simp [Attributes.settled, Attributes.minimum?, Attributes.maximum?, hnumeric]

end

/-! ## Levels as they are written -/

/-- The keywords that close a level. -/
def closingVocabulary : List String := ["additionalProperties", "propertyOrdering"]

/-- What a level says that holds the keywords of a nested object. -/
structure SaysNested (level : Entries Value) (required : List String)
    (properties : Entries Value) (extra : Bool) : Prop where
  properties : level.lookup "properties" = some (.object properties)
  /-- An empty list of required names is not written. -/
  required : level.lookup "required"
    = if required = [] then none else some (.texts required)
  extra : level.lookup "additionalProperties" = some (.boolean extra)
  items : level.lookup "items" = none

theorem SaysNested.object?_properties {level : Entries Value} {required : List String}
    {properties : Entries Value} {extra : Bool}
    (h : SaysNested level required properties extra) :
    Json.object? "properties" level = some properties := by
  rw [Json.object?, h.properties]
  rfl

theorem SaysNested.requiredNames {level : Entries Value} {required : List String}
    {properties : Entries Value} {extra : Bool}
    (h : SaysNested level required properties extra) :
    Document.requiredNames level = required := by
  by_cases hnil : required = []
  · rw [hnil]
    exact Document.requiredNames_of_lookup_none (by rw [h.required, if_pos hnil])
  · exact Document.requiredNames_of_texts (by rw [h.required, if_neg hnil])

theorem lookup_items_of_mem_vocabulary {keyword : String}
    (h : keyword ∈ Attributes.vocabulary) (items : Option Items) :
    (r.items items).lookup keyword = none := by
  have hi := Attributes.ne_of_mem_vocabulary h (show "items" ∉ _ by decide)
  rcases items with _ | (⟨⟨_, _, _, _⟩⟩ | _)
  · rfl
  · simp [Rules.items, Entries.lookup_cons, hi]
  · simp [Rules.items, Entries.lookup_cons, hi]

namespace Keeps

variable {k : Retention} (hk : r.Keeps k)

include hk

theorem lookup_standaloneLevel {keyword : String} (h : keyword ∉ closingVocabulary)
    (required : List String) (properties : Entries Value) :
    (r.standaloneLevel required properties).lookup keyword =
      if keyword = "type" then some (.string "object")
      else if keyword = "properties" then some (.object properties)
      else if keyword = "required" then some (.texts required)
      else none := by
  simp only [closingVocabulary, List.mem_cons, not_or] at h
  rw [standaloneLevel, Entries.lookup_append, hk.lookup_closing _ _ h.1 h.2.1,
    Option.or_none]
  simp [Entries.lookup_cons]

theorem allowsExtra_standaloneLevel (required : List String) (properties : Entries Value) :
    Document.allowsExtra (r.standaloneLevel required properties) = false := by
  have hlookup : (r.standaloneLevel required properties).lookup "additionalProperties"
      = (r.closing properties.names).lookup "additionalProperties" := by
    rw [standaloneLevel, Entries.lookup_append]
    rfl
  rw [← hk.allowsExtra_closing properties.names, Document.allowsExtra,
    Document.allowsExtra, hlookup]

theorem lookup_nested {keyword : String} (ho : keyword ≠ "propertyOrdering")
    (required : List String) (properties : Entries Value) (extra : Bool) :
    (r.nested required properties extra).lookup keyword =
      if keyword = "properties" then some (.object properties)
      else if keyword = "required" ∧ required ≠ [] then some (.texts required)
      else if keyword = "additionalProperties" then some (.boolean (k.extra extra))
      else none := by
  rw [nested, List.cons_append, Entries.lookup_cons, Entries.lookup_append,
    lookup_nonemptyMember]
  by_cases ha : keyword = "additionalProperties"
  · subst ha
    simp [hk.extra_nestedClosing]
  · rw [hk.lookup_nestedClosing _ _ _ ha ho]
    simp [ha, Value.texts]

/-- A level says what a nested object says if look-ups find so much, the attributes
aside. -/
theorem saysNested {level : Entries Value} {required : List String}
    {properties : Entries Value} {extra : Bool} (h : ∀ keyword ∉ Attributes.vocabulary,
      level.lookup keyword = (r.nested required properties extra).lookup keyword) :
    SaysNested level required properties (k.extra extra) := by
  have hlookup (keyword : String) (hv : keyword ∉ Attributes.vocabulary)
      (ho : keyword ≠ "propertyOrdering") :=
    (h keyword hv).trans (hk.lookup_nested ho required properties extra)
  have hrequired : level.lookup "required"
      = if required = [] then none else some (.texts required) := by
    rw [hlookup "required" (by decide) (by decide)]
    by_cases hnil : required = [] <;> simp [hnil]
  exact ⟨hlookup "properties" (by decide) (by decide), hrequired,
    hlookup "additionalProperties" (by decide) (by decide),
    hlookup "items" (by decide) (by decide)⟩

theorem lookup_nested_of_mem_vocabulary {keyword : String}
    (h : keyword ∈ Attributes.vocabulary) (required : List String)
    (properties : Entries Value) (extra : Bool) :
    (r.nested required properties extra).lookup keyword = none := by
  have hp := Attributes.ne_of_mem_vocabulary h (show "properties" ∉ _ by decide)
  have hr := Attributes.ne_of_mem_vocabulary h (show "required" ∉ _ by decide)
  have ha := Attributes.ne_of_mem_vocabulary h (show "additionalProperties" ∉ _ by decide)
  have ho := Attributes.ne_of_mem_vocabulary h (show "propertyOrdering" ∉ _ by decide)
  rw [hk.lookup_nested ho, if_neg hp, if_neg fun h => hr h.1, if_neg ha]

theorem lookup_shape_of_mem_vocabulary {keyword : String}
    (h : keyword ∈ Attributes.vocabulary) (shape : Option Shape) :
    (r.shape shape).lookup keyword = none := by
  have ha := Attributes.ne_of_mem_vocabulary h (show "additionalProperties" ∉ _ by decide)
  rcases shape with _ | (⟨⟨_, _, _, _⟩⟩ | ⟨_, _⟩ | _)
  · exact hk.lookup_nested_of_mem_vocabulary h _ _ _
  · exact hk.lookup_nested_of_mem_vocabulary h _ _ _
  · exact hk.lookup_nested_of_mem_vocabulary h _ _ _
  · simp [Rules.shape, Entries.lookup_cons, ha]

/-! ## Reading levels back -/

omit hk in
/-- Declared fields are read back from the keywords of their object. -/
theorem shapeAt_saysNested {level : Entries Value} {required : List String}
    {properties : Entries Value} {extra : Bool}
    (h : SaysNested level required properties extra) (name : String) :
    Document.shapeAt name level (Document.fieldsOf (Document.requiredNames level) level)
      = some (.schema ⟨name ++ "Object", Document.textOrEmpty "description" level,
        Document.fieldsOfDefinitions required properties, extra⟩) := by
  rw [Document.shapeAt, if_pos (Document.hasProperties_of_lookup h.properties),
    h.requiredNames, Document.fieldsOf_of_properties h.properties, Document.schemaAt,
    Document.allowsExtra, h.extra]

/-- The shape of declared fields, if the fields are read back. -/
theorem shapeAt_declared {fields : Entries Field} {extra : Bool} {level : Entries Value}
    (hfields : Document.fieldsOfDefinitions (Schema.namesWhere (·.required) fields)
      (r.properties fields) = k.fields fields)
    (hlevel : ∀ keyword ∉ Attributes.vocabulary, level.lookup keyword
      = (r.nested (Schema.namesWhere r.demands fields) (r.properties fields)
        extra).lookup keyword)
    {description : Option String}
    (hdescription : Document.textOrEmpty "description" level = description.getD "")
    (name : String) :
    Document.shapeAt name level (Document.fieldsOf (Document.requiredNames level) level)
      = some (Retention.declaredShape name description (k.fields fields)
        (k.extra extra)) := by
  rw [hk.demands] at hlevel
  rw [shapeAt_saysNested (hk.saysNested hlevel), hdescription, hfields,
    Retention.declaredShape]

/-- A map is read back from what is said of its values. -/
theorem shapeAt_map {values : Value} {level : Entries Value}
    (hlevel : ∀ keyword ∉ Attributes.vocabulary, level.lookup keyword
      = List.lookup keyword [("additionalProperties", k.fragment values)])
    (name : String) (fields : Entries Field) :
    Document.shapeAt name level fields = some (k.mapShape values) := by
  have hp : level.lookup "properties" = none := hlevel _ (by decide)
  have ha : level.lookup "additionalProperties" = some (k.fragment values) :=
    hlevel _ (by decide)
  rw [Document.shapeAt, Document.hasProperties_of_lookup_none hp, ha]
  -- A fragment stays an object or stays what it is, so the reader takes the branch of the
  -- value.
  cases values with
  | object level =>
    obtain ⟨kept, hkept⟩ := hk.fragment_object level
    simp [Retention.mapShape, hkept]
  | boolean b =>
    rw [hk.fragment_leaf _ rfl]
    cases b <;> rfl
  | _ =>
    rw [hk.fragment_leaf _ rfl]
    rfl

/-- An object on its own says nothing of its names and descriptions. -/
theorem text?_standaloneLevel {keyword : String} (h : keyword ∉ closingVocabulary)
    (hother : keyword ∉ ["type", "properties", "required"]) (required : List String)
    (properties : Entries Value) :
    Json.text? keyword (r.standaloneLevel required properties) = none := by
  simp only [List.mem_cons, not_or] at hother
  rw [Json.text?, hk.lookup_standaloneLevel h, if_neg hother.1, if_neg hother.2.1,
    if_neg hother.2.2.1]
  rfl

/-- The fields of an object on its own are read back. -/
theorem schemaAt_standaloneLevel (name : String) (required : List String)
    (properties : Entries Value) :
    Document.schemaAt name (r.standaloneLevel required properties)
      (Document.fieldsOf (Document.requiredNames (r.standaloneLevel required properties))
        (r.standaloneLevel required properties))
      = ⟨name, "", Document.fieldsOfDefinitions required properties, false⟩ := by
  have hproperties : (r.standaloneLevel required properties).lookup "properties"
      = some (.object properties) :=
    hk.lookup_standaloneLevel (by decide) required properties
  have hrequired : Document.requiredNames (r.standaloneLevel required properties)
      = required :=
    Document.requiredNames_of_texts
      (hk.lookup_standaloneLevel (by decide) required properties)
  have hdescription : Document.textOrEmpty "description"
      (r.standaloneLevel required properties) = "" := by
    rw [Document.textOrEmpty, hk.text?_standaloneLevel (by decide) (by decide)]
    rfl
  rw [hrequired, Document.fieldsOf_of_properties hproperties, Document.schemaAt,
    hdescription, hk.allowsExtra_standaloneLevel]

/-- Items described by a schema are read back. -/
theorem itemsOf_standalone (required : List String) (properties : Entries Value)
    (name : String) :
    Document.itemsOf name (r.standalone required properties)
      = .schema ⟨name ++ "Item", Document.itemDescription,
        Document.fieldsOfDefinitions required properties, false⟩ := by
  have htype : Json.text? "type" (r.standaloneLevel required properties)
      = some "object" := by
    rw [Json.text?, hk.lookup_standaloneLevel (by decide)]
    rfl
  have hproperties : (r.standaloneLevel required properties).lookup "properties"
      = some (.object properties) :=
    hk.lookup_standaloneLevel (by decide) required properties
  show Document.itemsOf name (.object (r.standaloneLevel required properties)) = _
  rw [Document.itemsOf, Document.itemsAt, htype,
    Document.hasProperties_of_lookup hproperties, hk.schemaAt_standaloneLevel]
  rfl

/-- What is read off the level of a field, from its attributes and its body. -/
theorem fieldOf_fieldLevel (a : Attributes) {body : Entries Value}
    (hbody : ∀ keyword ∈ Attributes.vocabulary, body.lookup keyword = none)
    (name : String) :
    Document.fieldOf name a.required (.object (r.fieldLevel a body)) = {
      attributes := a.settled
      shape :=
        if a.kind = .object then
          Document.shapeAt name (r.fieldLevel a body)
            (Document.fieldsOf (Document.requiredNames (r.fieldLevel a body))
              (r.fieldLevel a body))
        else none
      items :=
        if a.kind = .array then (body.lookup "items").map (Document.itemsOf name)
        else none } := by
  rw [Document.fieldOf, Document.fieldAt, attributesOf_fieldLevel a hbody hk.writesDefault,
    kindOf_fieldLevel a hbody, Document.itemsIn_eq,
    lookup_fieldLevel_of_not_mem (by decide)]

omit hk

-- The recursion of the compiler, read back level by level. What carries it is that the
-- required names of a level say of each of its fields whether it is required.
mutual

theorem fieldsOfDefinitions_properties (hk : r.Keeps k) :
    ∀ (fields : List (String × Field)) (required : List String),
    (∀ e ∈ fields, required.contains e.1 = e.2.attributes.required) →
    FieldsHold FlagsByName (fun _ => True) fields →
    Document.fieldsOfDefinitions required (r.properties fields) = k.fields fields
  | [], _, _, _ => rfl
  | (name, f) :: rest, required, hflags, hfields => by
    have hrest : ∀ e ∈ rest, required.contains e.1 = e.2.attributes.required :=
      fun e he => hflags e (List.mem_cons_of_mem _ he)
    have hflag : required.contains name = f.attributes.required :=
      hflags (name, f) List.mem_cons_self
    rw [properties, Document.fieldsOfDefinitions, hflag, fieldOf_field hk f name hfields.1,
      fieldsOfDefinitions_properties hk rest required hrest hfields.2, Retention.fields]
  termination_by structural fields => fields

theorem fieldOf_field (hk : r.Keeps k) : ∀ (f : Field) (name : String),
    FieldHolds FlagsByName (fun _ => True) f →
    Document.fieldOf name f.attributes.required (r.field f) = k.field name f
  | ⟨attributes, shape, items⟩, name, hf => by
    have hshape := shapeAt_shape hk shape name
    have hitems := itemsOf_items hk items name hf.2
    rw [Rules.field, Retention.field, hk.attributes]
    -- The kind decides what stands between the attributes and the default.
    cases hkind : attributes.kind with
    | object =>
      have hbody : ∀ keyword ∈ Attributes.vocabulary,
          (r.shape shape).lookup keyword = none :=
        fun keyword h => hk.lookup_shape_of_mem_vocabulary h shape
      have hlevel := hshape (r.fieldLevel attributes (r.shape shape)) hf.1
        (fun keyword h => lookup_fieldLevel_of_not_mem h attributes _) _
        (textOrEmpty_fieldLevel attributes hbody)
      rw [← fieldLevel, hk.fieldOf_fieldLevel attributes hbody, hkind, hlevel]
      rfl
    | array =>
      have hbody : ∀ keyword ∈ Attributes.vocabulary,
          (r.items items).lookup keyword = none :=
        fun keyword h => lookup_items_of_mem_vocabulary h items
      rw [← fieldLevel, hk.fieldOf_fieldLevel attributes hbody, hkind, hitems]
      rfl
    | _ =>
      have hbody : ∀ keyword ∈ Attributes.vocabulary,
          List.lookup keyword ([] : Entries Value) = none := fun _ _ => rfl
      rw [← fieldLevel, hk.fieldOf_fieldLevel attributes hbody, hkind]
      rfl
  termination_by structural f => f

theorem shapeAt_shape (hk : r.Keeps k) :
    ∀ (shape : Option Shape) (name : String) (level : Entries Value),
    ShapeHolds FlagsByName (fun _ => True) shape →
    (∀ keyword ∉ Attributes.vocabulary, level.lookup keyword
      = (r.shape shape).lookup keyword) →
    ∀ description : Option String,
      Document.textOrEmpty "description" level = description.getD "" →
    Document.shapeAt name level (Document.fieldsOf (Document.requiredNames level) level)
      = some (k.shape name description shape)
  | none, name, level, _, hlevel, description, hdescription => by
    rw [Rules.shape] at hlevel
    rw [shapeAt_saysNested (hk.saysNested hlevel), hdescription, hk.extra_false]
    rfl
  | some (.schema ⟨_, _, fields, extra⟩), name, level, h, hlevel, description,
    hdescription => by
    have hfields := fieldsOfDefinitions_properties hk fields _
      (fun e he => h.1.contains_namesWhere he) h.2
    rw [Rules.shape] at hlevel
    exact hk.shapeAt_declared hfields hlevel hdescription name
  | some (.inline fields extra), name, level, h, hlevel, description, hdescription => by
    have hfields := fieldsOfDefinitions_properties hk fields _
      (fun e he => h.1.contains_namesWhere he) h.2
    rw [Rules.shape] at hlevel
    exact hk.shapeAt_declared hfields hlevel hdescription name
  | some (.map values), name, level, _, hlevel, _, _ => by
    rw [Rules.shape, hk.fragment] at hlevel
    rw [hk.shapeAt_map hlevel, Retention.shape]
  termination_by structural shape => shape

theorem itemsOf_items (hk : r.Keeps k) : ∀ (items : Option Items) (name : String),
    ItemsHold FlagsByName (fun _ => True) items →
    ((r.items items).lookup "items").map (Document.itemsOf name) = k.items name items
  | none, _, _ => rfl
  | some (.schema ⟨_, _, fields, _⟩), name, h => by
    have hfields := fieldsOfDefinitions_properties hk fields _
      (fun e he => h.1.contains_namesWhere he) h.2
    rw [Rules.items, hk.demands, Retention.items, ← hfields, ← hk.itemsOf_standalone]
    rfl
  | some (.fragment fragment), name, _ => by
    rw [Rules.items, hk.fragment, Retention.items]
    rfl
  termination_by structural items => items

end

/-- A plain document is the level of an object on its own. -/
theorem compile_eq (hk : r.Keeps k) (s : Schema) : r.compile s = .object
    (r.standaloneLevel (Schema.namesWhere r.demands s.fields)
      (r.properties s.fields)) := by
  rw [compile, hk.finish]
  rfl

/-- A plain document says of a schema what is kept. -/
theorem ofDocument_compile_eq (hk : r.Keeps k) {s : Schema} (h : s.Coherent) :
    Schema.ofDocument (r.compile s) = k.schema s := by
  have hname : Schema.documentName
        (r.standaloneLevel (Schema.namesWhere r.demands s.fields) (r.properties s.fields))
      = Schema.defaultName := by
    rw [Schema.documentName, hk.text?_standaloneLevel (by decide) (by decide),
      hk.text?_standaloneLevel (by decide) (by decide)]
    rfl
  have hfields := fieldsOfDefinitions_properties hk s.fields _
    (fun e he => h.1.contains_namesWhere he) h.2
  rw [hk.compile_eq, Schema.ofDocument, hname, hk.schemaAt_standaloneLevel, hk.demands,
    hfields, Retention.schema]

end Keeps

end Rules

/-! ## Documents of every dialect -/

/-- Reading a compiled document back gives the normal form, also where levels repeat names,
as long as the fields of one name agree on being required. -/
theorem Provider.ofDocument_compile_of_coherent (p : Provider) {s : Schema}
    (h : s.Coherent) : Schema.ofDocument (p.compile s) = p.normalForm s := by
  cases p with
  | openAI =>
    have hstrict : (OpenAI.strictify s).Coherent := OpenAI.holds_strictify
      (fun fields _ => OpenAI.flagsByName_strictifyFields fields) (fun _ _ => trivial) h
    show Schema.ofDocument (OpenAI.rules.compile s) = _
    rw [OpenAI.rules_compile, Ollama.keeps.ofDocument_compile_eq hstrict, Retention.schema,
      OpenAI.strictify, retention_strictifyFields]
    rfl
  | anthropic => exact Anthropic.keeps.ofDocument_compile_eq h
  | gemini => exact Gemini.keeps.ofDocument_compile_eq h
  | ollama => exact Ollama.keeps.ofDocument_compile_eq h

/-- Reading a compiled document back gives the normal form of its schema. -/
theorem Provider.ofDocument_compile (p : Provider) {s : Schema} (h : s.Distinct) :
    Schema.ofDocument (p.compile s) = p.normalForm s :=
  p.ofDocument_compile_of_coherent h.coherent

/-- A schema of which little is kept: a flag, names and descriptions of its own, a default
`null`, bounds on a text, a map that is closed, and items with a name and a description. -/
def report : Schema where
  name := "Report"
  description := "A report"
  fields := [
    ("title", {
      attributes := {
        kind := .string, description := some "", required := false
        minimum := some (.integer 0), default := some .null }
      shape := none
      items := none }),
    ("labels", {
      attributes := { kind := .object }
      shape := some (.map (.boolean false))
      items := none }),
    ("rows", {
      attributes := { kind := .array, choices := some [] }
      shape := none
      items := some (.schema ⟨"Row", "A row", [], true⟩) })]
  allowsExtra := true

theorem distinct_report : report.Distinct := by
  simp [report, Schema.Distinct, Schema.Holds, FieldsHold, FieldHolds, ShapeHolds,
    ItemsHold, Value.Distinct]

theorem ofDocument_compile_report :
    Schema.ofDocument (Provider.gemini.compile report) = {
      name := "Schema"
      description := ""
      fields := [
        ("title", {
          attributes := { kind := .string, required := false }
          shape := none
          items := none }),
        ("labels", {
          attributes := { kind := .object }
          shape := some .empty
          items := none }),
        ("rows", {
          attributes := { kind := .array }
          shape := none
          items := some (.schema ⟨"rowsItem", "Array item", [], false⟩) })]
      allowsExtra := false } :=
  (Provider.gemini.ofDocument_compile distinct_report).trans rfl

/-- A schema with one field, which may be left out. -/
def memo : Schema where
  name := "Schema"
  description := ""
  fields := [("note", ⟨{ kind := .string, required := false }, none, none⟩)]
  allowsExtra := false

/-- Settling attributes does not account for every dialect: strict mode requires every
field. -/
theorem not_forall_attributes_settled : ¬ ∀ (p : Provider) (s : Schema), s.Distinct →
    ∃ k : Retention, k.attributes = Attributes.settled
      ∧ Schema.ofDocument (p.compile s) = k.schema s := by
  intro h
  have hdistinct : memo.Distinct := by
    simp [memo, Schema.Distinct, Schema.Holds, FieldsHold, FieldHolds,
      ShapeHolds, ItemsHold]
  obtain ⟨k, hk, hread⟩ := h .openAI memo hdistinct
  have hkept : (k.schema memo).fields.map (·.2.attributes.required) = [false] := by
    show [(k.attributes _).required] = [false]
    rw [hk]
    rfl
  have hrequired : (Schema.ofDocument (Provider.openAI.compile memo)).fields.map
      (·.2.attributes.required) = [true] := rfl
  rw [hread, hkept] at hrequired
  cases hrequired

end StructuredOutput
