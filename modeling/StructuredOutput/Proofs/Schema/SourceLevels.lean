import StructuredOutput.Proofs.Schema.Distinct
import StructuredOutput.Proofs.Schema.Pieces
import StructuredOutput.Proofs.Schema.Recompile

/-!
# Levels of a source document

Every JSON value is read as a schema document, and some of its objects are read as declared
objects: `Document.DeclaredAt` says which, and at which address. The same address of the
recompiled document then has a level for the same object. The main statement,
`Provider.required_recompile`, is that the two agree on the properties, and that what the
source lists under `required`, however malformed, decides what the recompiled level
requires.
-/

namespace StructuredOutput

open Json (Value)

namespace Document

/-! ## Declared objects -/

/-- The objects of a document that are read as declarations, with their addresses: the
document itself, properties that are objects with `properties` of their own, and such
objects as the items of arrays. -/
inductive DeclaredAt (d : Value) : Json.Address → Entries Value → Prop
  | document {level : Entries Value} (h : d = .object level) : DeclaredAt d [] level
  | property {address : Json.Address} {level definitions definition : Entries Value}
    {name : String} (above : DeclaredAt d address level)
    (hdefinitions : Json.object? "properties" level = some definitions)
    (hdefinition : (name, .object definition) ∈ definitions)
    (htype : Json.text? "type" definition = some "object")
    (hproperties : hasProperties definition) :
    DeclaredAt d (address ++ [.member "properties", .member name]) definition
  | items {address : Json.Address} {level definitions definition item : Entries Value}
    {name : String} (above : DeclaredAt d address level)
    (hdefinitions : Json.object? "properties" level = some definitions)
    (hdefinition : (name, .object definition) ∈ definitions)
    (htype : Json.text? "type" definition = some "array")
    (hitems : definition.lookup "items" = some (.object item))
    (hitem : Json.text? "type" item = some "object") (hproperties : hasProperties item) :
    DeclaredAt d (address ++ [.member "properties", .member name] ++ [.member "items"])
      item

/-- Whether the `required` keyword of a level holds an array with the name among its
items. -/
def lists (level : Entries Value) (name : String) : Bool :=
  match level.lookup "required" with
  | some (.array items) => items.any fun item => item.string? == some name
  | _ => false

theorem contains_requiredNames (level : Entries Value) (name : String) :
    (requiredNames level).contains name = lists level name := by
  rw [Bool.eq_iff_iff, List.contains_iff_mem, requiredNames, lists]
  cases level.lookup "required" with
  | none => simp
  | some v => cases v <;> simp [List.mem_filterMap]

/-! ## What is read of them -/

theorem fieldsOf_eq_mapValues (required : List String) (level : Entries Value) :
    fieldsOf required level = ((Json.object? "properties" level).getD []).mapValues
      fun name definition => fieldOf name (required.contains name) definition := by
  rw [fieldsOf_eq]
  cases Json.object? "properties" level with
  | none => rfl
  | some definitions => exact fieldsOfDefinitions_eq required definitions

theorem mem_fieldsOf {level definitions : Entries Value}
    (hdefinitions : Json.object? "properties" level = some definitions) {name : String}
    {v : Value} (hv : (name, v) ∈ definitions) (required : List String) :
    (name, fieldOf name (required.contains name) v) ∈ fieldsOf required level := by
  rw [fieldsOf_eq_mapValues, hdefinitions]
  exact Entries.mem_mapValues.mpr ⟨_, hv, rfl⟩

theorem names_fieldsOf (required : List String) (level : Entries Value) :
    (fieldsOf required level).names = propertyNames level := by
  rw [fieldsOf_eq_mapValues, Entries.names_mapValues, propertyNames]

/-- The fields that are required are the properties that the level lists, in the order of
the properties. -/
theorem requiredNames_fieldsOf (level : Entries Value) :
    Schema.namesWhere (·.required) (fieldsOf (requiredNames level) level)
      = (propertyNames level).filter (lists level) := by
  rw [fieldsOf_eq_mapValues, propertyNames]
  generalize (Json.object? "properties" level).getD [] = definitions
  rw [Schema.namesWhere, Entries.mapValues, Entries.names, List.filter_map, List.map_map,
    Entries.names, List.filter_map]
  simp only [Function.comp_def, required_fieldOf, contains_requiredNames]

theorem content_fieldOf_object {level : Entries Value}
    (htype : Json.text? "type" level = some "object") (hproperties : hasProperties level)
    (name : String) (required : Bool) :
    (fieldOf name required (.object level)).content
      = .object (allowsExtra level) (fieldsOf (requiredNames level) level) := by
  have hkind : kindOf level = .object := by
    rw [kindOf, htype]
    rfl
  have hshape (fields : Entries Field) : shapeAt name level fields
      = some (.schema (schemaAt (name ++ "Object") level fields)) := if_pos hproperties
  rw [fieldOf, Field.content, fieldAt, attributesOf, hkind]
  simp only [if_true, hshape]
  rfl

theorem content_fieldOf_array {level item : Entries Value}
    (htype : Json.text? "type" level = some "array")
    (hitems : level.lookup "items" = some (.object item))
    (hitem : Json.text? "type" item = some "object") (hproperties : hasProperties item)
    (name : String) (required : Bool) :
    (fieldOf name required (.object level)).content
      = .schemaItems (fieldsOf (requiredNames item) item) := by
  have hkind : kindOf level = .array := by
    rw [kindOf, htype]
    rfl
  have hread : itemsIn name level
      = some (itemsAt name item (fieldsOf (requiredNames item) item)) := by
    rw [itemsIn_eq, hitems, Option.map_some, itemsOf]
  rw [fieldOf, Field.content, fieldAt, attributesOf, hkind, hread, itemsAt, hitem]
  simp only [hproperties]
  rfl

/-- A declared object becomes a piece of the schema that is read, at the same address. -/
theorem DeclaredAt.places {d : Value} {address : Json.Address} {level : Entries Value}
    (h : DeclaredAt d address level) : ∃ place, (Schema.ofDocument d).Places address
      (.object place (fieldsOf (requiredNames level) level)) := by
  induction h with
  | document h =>
    subst h
    exact ⟨_, .document⟩
  | property above hdefinitions hdefinition htype hproperties ih =>
    obtain ⟨place, hplaces⟩ := ih
    have hcontent := content_fieldOf_object htype hproperties
    have hpiece := hplaces.field (mem_fieldsOf hdefinitions hdefinition _)
      (congrArg Content.piece? (hcontent _ _))
    rw [List.append_nil] at hpiece
    exact ⟨_, hpiece⟩
  | items above hdefinitions hdefinition htype hitems hitem hproperties ih =>
    obtain ⟨place, hplaces⟩ := ih
    have hcontent := content_fieldOf_array htype hitems hitem hproperties
    exact ⟨_, hplaces.field (mem_fieldsOf hdefinitions hdefinition _)
      (congrArg Content.piece? (hcontent _ _))⟩

/-! ## Where they stand -/

/-- A property stands at its name, which no other has. -/
theorem at?_property {level definitions : Entries Value}
    (h : (Value.object level).Distinct)
    (hdefinitions : Json.object? "properties" level = some definitions) {name : String}
    {v : Value} (hv : (name, v) ∈ definitions) :
    (Value.object level).at? [.member "properties", .member name] = some v := by
  obtain ⟨w, hw, hobject⟩ := Option.bind_eq_some_iff.mp hdefinitions
  have hlookup : level.lookup "properties" = some (.object definitions) := by
    rw [hw, Value.eq_object_of_object? hobject]
  have hproperties : (Value.object definitions).Distinct :=
    h.at? ((Value.at?_member level "properties").trans hlookup)
  rw [Value.at?_cons, Json.Edge.follow, hlookup, Option.bind_some, Value.at?_member]
  exact Entries.lookup_of_mem hproperties.1 hv

theorem DeclaredAt.at? {d : Value} (hd : d.Distinct) {address : Json.Address}
    {level : Entries Value} (h : DeclaredAt d address level) :
    d.at? address = some (.object level) := by
  induction h with
  | document h =>
    rw [h]
    rfl
  | property _ hdefinitions hdefinition _ _ ih =>
    rw [Value.at?_append, ih]
    exact at?_property (hd.at? ih) hdefinitions hdefinition
  | items _ hdefinitions hdefinition _ hitems _ _ ih =>
    have hproperty := at?_property (hd.at? ih) hdefinitions hdefinition
    rw [Value.at?_append, Value.at?_append, ih, Option.bind_some, hproperty,
      Option.bind_some, Value.at?_member, hitems]

end Document

/-! ## What is required of them -/

/-- The level requires the given names and no others. To say nothing is to require none. -/
def RequiresJust (names : List String) (level : Entries Value) : Prop :=
  level.lookup "required" = some (.texts names)
    ∨ level.lookup "required" = none ∧ names = []

theorem Place.requiresJust {place : Place} {names : List String} {level : Entries Value}
    (h : level.lookup "required" = place.required names) : RequiresJust names level := by
  cases place with
  | standalone => exact .inl h
  | nested extra =>
    by_cases hnames : names = []
    · rw [required, if_pos hnames] at h
      exact .inr ⟨h, hnames⟩
    · rw [required, if_neg hnames] at h
      exact .inl h

namespace Provider

/-- The names that a recompiled level requires. -/
def keptNames (p : Provider) (level : Entries Value) : List String :=
  if p = openAI then Document.propertyNames level
  else (Document.propertyNames level).filter (Document.lists level)

theorem namesWhere_fieldsOf (p : Provider) (level : Entries Value) :
    Schema.namesWhere p.rules.demands
      (Document.fieldsOf (Document.requiredNames level) level) = p.keptNames level := by
  cases p with
  | openAI =>
    have hnames := Document.names_fieldsOf (Document.requiredNames level) level
    exact (OpenAI.namesWhere_demands _).trans hnames
  | anthropic => exact Document.requiredNames_fieldsOf level
  | gemini => exact Document.requiredNames_fieldsOf level
  | ollama => exact Document.requiredNames_fieldsOf level

/-- A declared object keeps its place and its properties when the document is recompiled.
It requires those of them that the source lists, each once and in their order; in strict
mode it requires all. -/
theorem required_recompile (p : Provider) {d : Value} (hd : d.Distinct)
    {address : Json.Address} {level : Entries Value}
    (h : Document.DeclaredAt d address level) :
    d.at? address = some (.object level)
      ∧ ∃ compiled, (p.recompile d).at? address = some (.object compiled)
        ∧ Document.propertyNames compiled = Document.propertyNames level
        ∧ (Document.propertyNames level).Nodup
        ∧ RequiresJust (p.keptNames level) compiled := by
  have hdistinct := Schema.distinct_ofDocument hd
  obtain ⟨place, hplaces⟩ := h.places
  have hfields : DistinctFields (Document.fieldsOf (Document.requiredNames level) level) :=
    hplaces.distinct hdistinct
  obtain ⟨_, hat, compiled, rfl, hsaid⟩ := p.piece_written hdistinct hplaces
  have hnames := Document.names_fieldsOf (Document.requiredNames level) level
  refine ⟨h.at? hd, compiled, hat, ?_, hnames ▸ hfields.1, ?_⟩
  · rw [Document.propertyNames_of_lookup hsaid.properties, Entries.names_mapValues, hnames]
  · apply Place.requiresJust
    rw [hsaid.required, p.namesWhere_fieldsOf]

end Provider

/-- A document with a nested object whose `required` keyword holds a name twice, a name
without a property, and a number. Its own is no list. -/
def survey : Value := .object [
  ("type", .string "object"),
  ("properties", .object [
    ("answers", .object [
      ("type", .string "object"),
      ("properties", .object [
        ("first", .object [("type", .string "string")]),
        ("second", .object [("type", .string "string")]),
        ("third", .object [("type", .string "string")])]),
      ("required", .array [.string "third", .number (.integer 2), .string "first",
        .string "fourth", .string "third"])])]),
  ("required", .string "answers")]

theorem distinct_survey : survey.Distinct := by
  simp [survey, Value.Distinct, Value.DistinctMembers, Value.DistinctItems]

/-- The nested object requires its first and third property, in that order. -/
theorem required_survey : ∃ compiled,
    (Provider.ollama.recompile survey).at? [.member "properties", .member "answers"]
      = some (.object compiled)
    ∧ RequiresJust ["first", "third"] compiled := by
  have hdocument : Document.DeclaredAt survey [] _ := .document rfl
  have hanswers := hdocument.property rfl (List.mem_singleton.mpr rfl) rfl rfl
  obtain ⟨-, compiled, hat, -, -, hrequired⟩ :=
    Provider.ollama.required_recompile distinct_survey hanswers
  exact ⟨compiled, hat, hrequired⟩

end StructuredOutput
