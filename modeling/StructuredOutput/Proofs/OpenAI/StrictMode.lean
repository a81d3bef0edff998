import StructuredOutput.Proofs.Schema.ReadBack

/-!
# Strict mode

What the provider asks of a document in strict mode, stated without the compiler: an object
that describes an object and has properties requires all of them and is closed, one without
properties says what it does about other names. It asks so of every *strict position*: the
document, items, properties of objects, and the values of maps. The main statement is that
every document of the dialect satisfies it, whatever fragments went into the schema.
-/

namespace StructuredOutput.OpenAI

open Json (Value)

/-! ## Strict positions -/

/-- The positions one step below an object. -/
inductive StrictStep : Value → Value → Prop
  | items {level : Entries Value} {v : Value} (h : level.lookup "items" = some v) :
    StrictStep (.object level) v
  | property {level properties : Entries Value} {name : String} {v : Value}
    (hobject : describesObject level)
    (hproperties : Json.object? "properties" level = some properties)
    (h : (name, v) ∈ properties) : StrictStep (.object level) v
  | values {level : Entries Value} {v : Value} (hobject : describesObject level)
    (hproperties : Json.object? "properties" level = none)
    (h : level.lookup "additionalProperties" = some v) : StrictStep (.object level) v

/-- The positions of a document at which strict mode asks something. -/
inductive StrictPosition (document : Value) : Value → Prop
  | root : StrictPosition document document
  | step {v w : Value} (hv : StrictPosition document v) (h : StrictStep v w) :
    StrictPosition document w

/-- A position is the document itself or lies below one step from it. -/
theorem StrictPosition.head {document v : Value} (h : StrictPosition document v) :
    v = document ∨ ∃ w, StrictStep document w ∧ StrictPosition w v := by
  induction h with
  | root => exact .inl rfl
  | step hv hstep ih =>
    right
    rcases ih with rfl | ⟨w, hw, hbelow⟩
    · exact ⟨_, hstep, .root⟩
    · exact ⟨w, hw, .step hbelow hstep⟩

/-! ## What strict mode asks -/

/-- What strict mode asks of a level with the given properties. -/
structure StrictProperties (level properties : Entries Value) : Prop where
  closed : level.lookup "additionalProperties" = some (.boolean false)
  /-- Only an object without properties may say nothing of what it requires. -/
  required : level.lookup "required" = some (.texts properties.names)
    ∨ level.lookup "required" = none ∧ properties = []
  distinct : properties.names.Nodup

/-- What strict mode asks of a level that describes an object. -/
def StrictLevel (level : Entries Value) : Prop :=
  match Json.object? "properties" level with
  | some properties => StrictProperties level properties
  | none => (level.lookup "additionalProperties").isSome

/-- Every strict position of the value that describes an object is as strict mode asks. -/
def Strict (v : Value) : Prop :=
  ∀ level, StrictPosition v (.object level) → describesObject level → StrictLevel level

theorem strict_of_object?_none {v : Value} (h : v.object? = none) : Strict v := by
  intro level hposition _
  rcases hposition.head with rfl | ⟨w, hstep, -⟩
  · cases h
  · cases hstep <;> cases h

/-- A level and everything below its positions make an object strict. -/
theorem strict_object_of_level {level : Entries Value}
    (hlevel : describesObject level → StrictLevel level)
    (hbelow : ∀ w, StrictStep (.object level) w → Strict w) : Strict (.object level) := by
  intro other hposition hobject
  rcases hposition.head with h | ⟨w, hstep, hw⟩
  · cases h
    exact hlevel hobject
  · exact hbelow w hstep other hw hobject

section

variable {level : Entries Value} (hitems : ∀ v, level.lookup "items" = some v → Strict v)

include hitems

/-- A level that does not describe an object is asked nothing itself. -/
theorem strict_of_not_describesObject (h : describesObject level = false) :
    Strict (.object level) := by
  apply strict_object_of_level
  · intro hobject
    rw [h] at hobject
    cases hobject
  · intro w hstep
    cases hstep with
    | items hw => exact hitems w hw
    | property hobject _ _ =>
      rw [h] at hobject
      cases hobject
    | values hobject _ _ =>
      rw [h] at hobject
      cases hobject

theorem strict_of_properties {properties : Entries Value}
    (hproperties : Json.object? "properties" level = some properties)
    (hlevel : StrictProperties level properties) (hbelow : ∀ e ∈ properties, Strict e.2) :
    Strict (.object level) := by
  apply strict_object_of_level
  · intro _
    rw [StrictLevel, hproperties]
    exact hlevel
  · intro w hstep
    cases hstep with
    | items hw => exact hitems w hw
    | property _ h hw =>
      cases h.symm.trans hproperties
      exact hbelow _ hw
    | values _ h _ => cases h.symm.trans hproperties

theorem strict_of_values {values : Value}
    (hproperties : Json.object? "properties" level = none)
    (hvalues : level.lookup "additionalProperties" = some values)
    (hbelow : Strict values) : Strict (.object level) := by
  apply strict_object_of_level
  · intro _
    rw [StrictLevel, hproperties, hvalues]
    rfl
  · intro w hstep
    cases hstep with
    | items hw => exact hitems w hw
    | property _ h _ => cases h.symm.trans hproperties
    | values _ _ hw =>
      cases hw.symm.trans hvalues
      exact hbelow

end

/-! ## Fragments -/

theorem items_strictifyLevel (level : Entries Value) :
    (strictifyLevel level).lookup "items"
      = (level.lookup "items").map strictifyFragment := by
  rw [strictifyLevel, lookup_levelWithoutBounds (by decide),
    lookup_tighten_of_ne (by decide) (by decide), Entries.lookup_mapValues, Option.map_map]
  rfl

/-- An object after both passes holds its properties after both passes. -/
theorem properties_strictifyLevel {level : Entries Value} (h : describesObject level) :
    Json.object? "properties" (strictifyLevel level)
      = (Json.object? "properties" level).map
        (Entries.mapValues fun _ => strictifyFragment) := by
  have hmember : cleanMember "properties" ∘ strictMember true "properties"
      = Value.mapMembers strictifyFragment :=
    funext fun v => Value.mapMembers_mapMembers strict withoutBounds v
  rw [Json.object?, Json.object?, strictifyLevel, lookup_levelWithoutBounds (by decide),
    lookup_tighten_of_ne (by decide) (by decide), Entries.lookup_mapValues, Option.map_map,
    h, hmember]
  cases level.lookup "properties" with
  | none => rfl
  | some v => exact Value.object?_mapMembers strictifyFragment v

/-- Without properties an object says what becomes of other names: what it said before,
after both passes, or that there are none. -/
theorem values_strictifyLevel {level : Entries Value} (h : describesObject level)
    (hproperties : Json.object? "properties" level = none) :
    (strictifyLevel level).lookup "additionalProperties"
      = some (((level.lookup "additionalProperties").map strictifyFragment).getD
        (.boolean false)) := by
  -- The level is tightened after its members are rewritten, but their names decide as
  -- before.
  have hstrict := transparent_strictMember (describesObject level)
  have hnames : (Json.object? "properties"
        (level.mapValues (strictMember (describesObject level)))).map Entries.names
      = none := by
    rw [hstrict.propertyNames, hproperties]
    rfl
  rw [strictifyLevel, lookup_levelWithoutBounds (by decide), tighten_eq,
    hstrict.describesObject, if_pos h, hnames, Entries.lookup_insertIfAbsent_self,
    Entries.lookup_mapValues, h]
  cases level.lookup "additionalProperties" <;> rfl

/-- With properties an object requires all of them and is closed. -/
theorem strictProperties_strictifyLevel {level properties : Entries Value}
    (h : describesObject level)
    (hproperties : Json.object? "properties" level = some properties)
    (hdistinct : properties.names.Nodup) :
    StrictProperties (strictifyLevel level)
      (properties.mapValues fun _ => strictifyFragment) := by
  have hstrict := transparent_strictMember (describesObject level)
  have hnames : (Json.object? "properties"
      (level.mapValues (strictMember (describesObject level)))).map Entries.names
      = some properties.names := by
    rw [hstrict.propertyNames, hproperties]
    rfl
  refine ⟨?_, .inl ?_, ?_⟩
  · rw [strictifyLevel, lookup_levelWithoutBounds (by decide), tighten_eq,
      hstrict.describesObject, if_pos h, hnames, Entries.lookup_insert_self]
    rfl
  · rw [strictifyLevel, lookup_levelWithoutBounds (by decide), tighten_eq,
      hstrict.describesObject, if_pos h, hnames, Entries.lookup_insert_of_ne (by decide),
      Entries.lookup_insert_self, Entries.names_mapValues]
    rfl
  · rw [Entries.names_mapValues]
    exact hdistinct

section

variable {level : Entries Value}
  (hbelow : ∀ e ∈ level, e.2.Near fun w => w.Distinct → Strict (strictifyFragment w))
  (hmembers : ∀ e ∈ level, e.2.Distinct)

include hbelow hmembers

theorem strict_member_strictifyLevel {keyword : String} {v : Value}
    (h : level.lookup keyword = some v) : Strict (strictifyFragment v) := by
  have hmem := Entries.mem_of_lookup h
  exact (hbelow _ hmem).self (hmembers _ hmem)

theorem strict_items_strictifyLevel (v : Value)
    (h : (strictifyLevel level).lookup "items" = some v) : Strict v := by
  rw [items_strictifyLevel] at h
  obtain ⟨w, hw, rfl⟩ := Option.map_eq_some_iff.mp h
  exact strict_member_strictifyLevel hbelow hmembers hw

theorem strict_strictifyLevel_of_properties {properties : Entries Value}
    (hobject : describesObject level)
    (hproperties : Json.object? "properties" level = some properties) :
    Strict (.object (strictifyLevel level)) := by
  obtain ⟨v, hv, hobj⟩ := Option.bind_eq_some_iff.mp hproperties
  have hmem := Entries.mem_of_lookup hv
  have hdistinct : (Value.object properties).Distinct := by
    rw [← Value.eq_object_of_object? hobj]
    exact hmembers _ hmem
  refine strict_of_properties (strict_items_strictifyLevel hbelow hmembers)
    (by rw [properties_strictifyLevel hobject, hproperties]; rfl)
    (strictProperties_strictifyLevel hobject hproperties hdistinct.1) ?_
  intro e he
  obtain ⟨d, hd, rfl⟩ := Entries.mem_mapValues.mp he
  have hdefinition := Value.distinctMembers_iff.mp hdistinct.2 d hd
  exact (hbelow _ hmem).members properties hobj d hd hdefinition

/-- What is said of other names is a strict position now, whether it was given or not. -/
theorem strict_strictifyLevel_of_values (hobject : describesObject level)
    (hproperties : Json.object? "properties" level = none) :
    Strict (.object (strictifyLevel level)) := by
  refine strict_of_values (strict_items_strictifyLevel hbelow hmembers)
    (by rw [properties_strictifyLevel hobject, hproperties]; rfl)
    (values_strictifyLevel hobject hproperties) ?_
  cases hv : level.lookup "additionalProperties" with
  | none => exact strict_of_object?_none rfl
  | some v => exact strict_member_strictifyLevel hbelow hmembers hv

/-- Both passes make a level strict if they do so below it. -/
theorem strict_strictifyLevel : Strict (.object (strictifyLevel level)) := by
  cases hobject : describesObject level with
  | false =>
    exact strict_of_not_describesObject (strict_items_strictifyLevel hbelow hmembers)
      ((describesObject_strictifyLevel level).trans hobject)
  | true =>
    cases hproperties : Json.object? "properties" level with
    | some properties =>
      exact strict_strictifyLevel_of_properties hbelow hmembers hobject hproperties
    | none => exact strict_strictifyLevel_of_values hbelow hmembers hobject hproperties

end

/-- A fragment is strict after both passes. -/
theorem strict_strictifyFragment (fragment : Value) (h : fragment.Distinct) :
    Strict (strictifyFragment fragment) := by
  induction fragment using Value.levelInduction with
  | leaf v hleaf =>
    rw [strictifyFragment, strict_of_object?_eq_none hleaf,
      withoutBounds_of_object?_eq_none hleaf]
    exact strict_of_object?_none hleaf
  | level level ih =>
    rw [strictifyFragment_object]
    exact strict_strictifyLevel ih (Value.distinctMembers_iff.mp h.2)

/-! ## Declared levels -/

/-- A level that says what a nested object says which requires all of its properties. -/
theorem strict_of_saysNested {level properties : Entries Value}
    (h : Rules.SaysNested level properties.names properties false)
    (hdistinct : properties.names.Nodup) (hbelow : ∀ e ∈ properties, Strict e.2) :
    Strict (.object level) := by
  have hitems : ∀ v, level.lookup "items" = some v → Strict v := by
    intro v hv
    rw [h.items] at hv
    cases hv
  have hrequired : level.lookup "required" = some (.texts properties.names)
      ∨ level.lookup "required" = none ∧ properties = [] := by
    rw [h.required]
    cases properties with
    | nil => exact .inr ⟨rfl, rfl⟩
    | cons e rest => exact .inl rfl
  exact strict_of_properties hitems h.object?_properties
    ⟨h.extra, hrequired, hdistinct⟩ hbelow

/-- The level of a field that is no object is asked nothing itself. -/
theorem strict_fieldLevel {a : Attributes} {body : Entries Value}
    (hkind : a.kind ≠ .object)
    (hbody : ∀ keyword ∈ Attributes.vocabulary, body.lookup keyword = none)
    (hitems : ∀ v, body.lookup "items" = some v → Strict v) :
    Strict (.object (Ollama.rules.fieldLevel a body)) := by
  refine strict_of_not_describesObject (fun v hv => hitems v ?_) ?_
  · rw [← Rules.lookup_fieldLevel_of_not_mem (by decide) a body]
    exact hv
  · rw [Rules.describesObject_fieldLevel a hbody]
    exact decide_eq_false hkind

/-- An object on its own that requires all of its properties. -/
theorem strict_standalone {properties : Entries Value} (hdistinct : properties.names.Nodup)
    (hbelow : ∀ e ∈ properties, Strict e.2) :
    Strict (Ollama.rules.standalone properties.names properties) := by
  have hitems : ∀ v, (Ollama.rules.standaloneLevel properties.names properties).lookup
      "items" = some v → Strict v := by
    intro v hv
    cases hv
  exact strict_of_properties hitems rfl ⟨rfl, .inl rfl, hdistinct⟩ hbelow

section

variable {fields : Entries Field} (hdistinct : fields.names.Nodup)
  (hbelow : ∀ e ∈ Ollama.rules.properties (strictifyFields fields), Strict e.2)

include hdistinct hbelow

-- What the plain dialect requires of strictified fields is all that it writes.
theorem strict_nested_strictifyFields {level : Entries Value}
    (hlevel : ∀ keyword ∉ Attributes.vocabulary, level.lookup keyword
      = (Ollama.rules.nested (Schema.namesWhere Ollama.rules.demands
        (strictifyFields fields)) (Ollama.rules.properties (strictifyFields fields))
        false).lookup keyword) : Strict (.object level) := by
  rw [namesWhere_eq_names_properties] at hlevel
  refine strict_of_saysNested (Ollama.keeps.saysNested hlevel) ?_ hbelow
  rwa [Rules.names_properties, names_strictifyFields]

theorem strict_standalone_strictifyFields :
    Strict (Ollama.rules.standalone
      (Schema.namesWhere Ollama.rules.demands (strictifyFields fields))
      (Ollama.rules.properties (strictifyFields fields))) := by
  rw [namesWhere_eq_names_properties]
  refine strict_standalone ?_ hbelow
  rwa [Rules.names_properties, names_strictifyFields]

end

-- The recursion of the compiler over a strictified schema.
mutual

theorem strict_properties : ∀ fields : List (String × Field), DistinctFields fields →
    ∀ e ∈ Ollama.rules.properties (strictifyFields fields), Strict e.2
  | [], _, _, he => by cases he
  | (name, f) :: rest, h, e, he => by
    have hrest : DistinctFields rest := ⟨(List.nodup_cons.mp h.1).2, h.2.2⟩
    rw [strictifyFields, Rules.properties] at he
    rcases List.mem_cons.mp he with rfl | he
    · exact strict_field f h.2.1
    · exact strict_properties rest hrest e he
  termination_by structural fields => fields

theorem strict_field :
    ∀ f : Field, DistinctField f → Strict (Ollama.rules.field (strictifyField f))
  | ⟨attributes, shape, items⟩, h => by
    have hshape := strict_shape shape h.1
    have hitems := strict_items items h.2
    have hkind : (strictifyAttributes attributes).kind = attributes.kind := rfl
    rw [strictifyField, Rules.field, hkind]
    cases hk : attributes.kind with
    | object =>
      exact hshape _ fun keyword h => Rules.lookup_fieldLevel_of_not_mem h _ _
    | array =>
      refine strict_fieldLevel (by rw [hkind, hk]; decide) ?_ hitems
      exact fun keyword h => Rules.lookup_items_of_mem_vocabulary h _
    | _ =>
      refine strict_fieldLevel (by rw [hkind, hk]; decide) (fun _ _ => rfl) ?_
      intro v hv
      cases hv
  termination_by structural f => f

theorem strict_shape :
    ∀ shape : Option Shape, DistinctShape shape →
    ∀ level : Entries Value, (∀ keyword ∉ Attributes.vocabulary, level.lookup keyword
      = (Ollama.rules.shape (strictifyShape shape)).lookup keyword) →
        Strict (.object level)
  | none, _, level, hlevel => by
    have hdistinct : (Entries.names ([] : Entries Field)).Nodup := List.nodup_nil
    exact strict_nested_strictifyFields hdistinct (fun _ he => by cases he) hlevel
  | some (.schema ⟨_, _, fields, _⟩), h, level, hlevel =>
    strict_nested_strictifyFields h.1 (strict_properties fields h) hlevel
  | some (.inline fields _), h, level, hlevel =>
    strict_nested_strictifyFields h.1 (strict_properties fields h) hlevel
  | some (.map values), h, level, hlevel => by
    have hproperties : level.lookup "properties" = none := hlevel _ (by decide)
    have hitems : level.lookup "items" = none := hlevel _ (by decide)
    have hvalues : level.lookup "additionalProperties" = some (strictifyFragment values) :=
      hlevel _ (by decide)
    refine strict_of_values ?_ ?_ hvalues (strict_strictifyFragment values h)
    · intro v hv
      rw [hitems] at hv
      cases hv
    · rw [Json.object?, hproperties]
      rfl
  termination_by structural shape => shape

theorem strict_items : ∀ items : Option Items, DistinctItems items →
    ∀ v, (Ollama.rules.items (strictifyItems items)).lookup "items" = some v → Strict v
  | none, _, _, hv => by cases hv
  | some (.schema ⟨_, _, fields, _⟩), h, v, hv => by
    have hbelow := strict_properties fields h
    rw [strictifyItems, Rules.items] at hv
    cases hv
    exact strict_standalone_strictifyFields h.1 hbelow
  | some (.fragment fragment), h, v, hv => by
    cases hv
    exact strict_strictifyFragment fragment h
  termination_by structural items => items

end

/-- Every object of a compiled document at a strict position is as strict mode asks. Names
have to be distinct in the schema for those that are required to be distinct. -/
theorem strictLevel_of_strictPosition {s : Schema} (h : s.Distinct) {level : Entries Value}
    (hposition : StrictPosition (Provider.openAI.compile s) (.object level))
    (hobject : describesObject level) : StrictLevel level := by
  have hbelow := strict_properties s.fields h
  have hstrict : Strict (rules.compile s) := by
    rw [rules_compile]
    exact strict_standalone_strictifyFields h.1 hbelow
  exact hstrict level hposition hobject

/-- An array whose items are given as a fragment: an object with a bounded property that is
called like a bound. -/
def readings : Schema where
  name := "Readings"
  description := ""
  fields := [("readings", {
    attributes := { kind := .array }
    shape := none
    items := some (.fragment (.object [
      ("type", .string "object"),
      ("properties", .object [
        ("minimum", .object [
          ("type", .string "number"),
          ("minimum", .number (.integer 0))])])])) })]
  allowsExtra := false

theorem distinct_readings : readings.Distinct := by
  simp [readings, Schema.Distinct, Schema.Holds, FieldsHold, FieldHolds, ShapeHolds,
    ItemsHold, Value.Distinct, Value.DistinctMembers]

/-- The items of the compiled array require the property, of which the bound is gone, and
are closed. -/
theorem strictLevel_readings : ∃ level : Entries Value,
    level.lookup "properties"
      = some (.object [("minimum", .object [("type", .string "number")])])
      ∧ StrictPosition (Provider.openAI.compile readings) (.object level)
      ∧ StrictLevel level := by
  have hroot : StrictPosition (Provider.openAI.compile readings)
      (Provider.openAI.compile readings) := .root
  have hfield := hroot.step (.property rfl rfl (List.mem_singleton.mpr rfl))
  have hitems := hfield.step (.items rfl)
  exact ⟨_, rfl, hitems, strictLevel_of_strictPosition distinct_readings hitems rfl⟩

end StructuredOutput.OpenAI
