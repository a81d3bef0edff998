import StructuredOutput.Proofs.Schema.ReadBack

/-!
# Declared levels

A compiled document has an object level for every object that its schema declares: for the
schema itself, for object fields with fields of their own, and for array items that a
schema describes. Maps and fragments are not declared, whatever they look like.
`Schema.rewriteLevels` rewrites the declared levels of a document, and `Schema.LevelsHold`
says something of each of them; both go through the schema and the document side by side.
The main statement, `Rules.Keeps.levelsHold`, is that a condition holds of every declared
level of a compiled document if it holds of the levels that the rules write.
-/

namespace StructuredOutput

open Json (Value)

/-- Where a declared object stands. -/
inductive Place where
  /-- As the document, or as the items of an array. -/
  | standalone
  /-- As an object field, which may allow names beyond its own. -/
  | nested (allowsExtra : Bool)

/-- Rewrites the properties of a level. -/
def withProperties (f : Entries Value → Entries Value) (level : Entries Value) :
    Entries Value :=
  level.adjust "properties" (Value.mapLevel f)

/-! ## Rewriting declared levels -/

section

variable (rewrite : Place → Entries Value → Entries Value)

mutual

/-- Rewrites the declared levels in the properties of an object, which stand in the order
of its fields. -/
def rewriteProperties : List (String × Field) → Entries Value → Entries Value
  | (_, f) :: fields, (name, definition) :: properties =>
    (name, definition.mapLevel (rewriteDefinition f))
      :: rewriteProperties fields properties
  | _, properties => properties
  termination_by structural fields => fields

/-- Rewrites the declared levels in the definition of a field. -/
def rewriteDefinition : Field → Entries Value → Entries Value
  | ⟨attributes, shape, items⟩, level =>
    match attributes.kind with
    | .object => rewriteNested shape level
    | .array => rewriteItems items level
    | _ => level
  termination_by structural f => f

/-- Rewrites the level of an object field, unless it is a map, and those below it. -/
def rewriteNested : Option Shape → Entries Value → Entries Value
  | none, level => rewrite (.nested false) level
  | some (.schema ⟨_, _, fields, extra⟩), level =>
    rewrite (.nested extra) (withProperties (rewriteProperties fields) level)
  | some (.inline fields extra), level =>
    rewrite (.nested extra) (withProperties (rewriteProperties fields) level)
  | some (.map _), level => level
  termination_by structural shape => shape

/-- Rewrites the items of an array field, if a schema describes them, and the levels below
them. -/
def rewriteItems : Option Items → Entries Value → Entries Value
  | some (.schema ⟨_, _, fields, _⟩), level =>
    level.adjust "items" (Value.mapLevel fun item =>
      rewrite .standalone (withProperties (rewriteProperties fields) item))
  | _, level => level
  termination_by structural items => items

end

/-- Rewrites every declared level of the schema in a document, the ones below before those
above. -/
def Schema.rewriteLevels (s : Schema) (document : Value) : Value :=
  document.mapLevel fun level =>
    rewrite .standalone (withProperties (rewriteProperties rewrite s.fields) level)

end

/-! ## Conditions on declared levels -/

section

variable (P : Place → Entries Value → Prop)

mutual

/-- The properties are those of the given fields, and the levels declared in them satisfy
`P`. -/
def PropertiesHold : List (String × Field) → Entries Value → Prop
  | [], properties => properties = []
  | (name, f) :: fields, properties =>
    ∃ level rest, properties = (name, .object level) :: rest
    ∧ DefinitionHolds f level ∧ PropertiesHold fields rest
  termination_by structural fields => fields

/-- The levels declared in the definition of the field satisfy `P`. -/
def DefinitionHolds : Field → Entries Value → Prop
  | ⟨attributes, shape, items⟩, level =>
    match attributes.kind with
    | .object => NestedHolds shape level
    | .array => ItemsLevelHolds items level
    | _ => True
  termination_by structural f => f

def NestedHolds : Option Shape → Entries Value → Prop
  | none, level => P (.nested false) level
  | some (.schema ⟨_, _, fields, extra⟩), level => P (.nested extra) level
    ∧ ∃ properties, level.lookup "properties" = some (.object properties)
      ∧ PropertiesHold fields properties
  | some (.inline fields extra), level => P (.nested extra) level
    ∧ ∃ properties, level.lookup "properties" = some (.object properties)
      ∧ PropertiesHold fields properties
  | some (.map _), _ => True
  termination_by structural shape => shape

def ItemsLevelHolds : Option Items → Entries Value → Prop
  | some (.schema ⟨_, _, fields, _⟩), level =>
    ∃ item, level.lookup "items" = some (.object item) ∧ P .standalone item
      ∧ ∃ properties, item.lookup "properties" = some (.object properties)
        ∧ PropertiesHold fields properties
  | _, _ => True
  termination_by structural items => items

end

/-- Every declared level of the schema is there in the document, and satisfies `P`. -/
def Schema.LevelsHold (s : Schema) (document : Value) : Prop :=
  ∃ level, document = .object level ∧ P .standalone level
    ∧ ∃ properties, level.lookup "properties" = some (.object properties)
      ∧ PropertiesHold P s.fields properties

end

/-! ## Declared levels as they are written -/

/-- The condition holds of every level that the rules write for a declared object. -/
structure Rules.Writes (r : Rules) (P : Place → Entries Value → Prop) : Prop where
  standalone : ∀ required properties, P .standalone (r.standaloneLevel required properties)
  nested : ∀ a required properties extra,
    P (.nested extra) (r.fieldLevel a (r.nested required properties extra))

namespace Rules.Keeps

variable {r : Rules} {k : Retention} {P : Place → Entries Value → Prop}

theorem properties_standaloneLevel (hk : r.Keeps k) (required : List String)
    (properties : Entries Value) :
    (r.standaloneLevel required properties).lookup "properties"
      = some (.object properties) :=
  hk.lookup_standaloneLevel (by decide) required properties

theorem properties_nestedLevel (hk : r.Keeps k) (a : Attributes) (required : List String)
    (properties : Entries Value) (extra : Bool) :
    (r.fieldLevel a (r.nested required properties extra)).lookup "properties"
      = some (.object properties) := by
  rw [lookup_fieldLevel_of_not_mem (by decide), hk.lookup_nested (by decide)]
  rfl

-- The recursion of the compiler, which writes a level for each declared object.
mutual

theorem propertiesHold (hk : r.Keeps k) (hP : r.Writes P) :
    ∀ fields : List (String × Field),
    PropertiesHold P fields (r.properties fields)
  | [] => rfl
  | (name, f) :: rest => by
    rw [properties, r.field_eq]
    exact ⟨_, _, rfl, hk.definitionHolds hP f, hk.propertiesHold hP rest⟩
  termination_by structural fields => fields

theorem definitionHolds (hk : r.Keeps k) (hP : r.Writes P) : ∀ f : Field,
    DefinitionHolds P f (r.fieldLevel f.attributes (r.body f))
  | ⟨attributes, shape, items⟩ => by
    have hshape := hk.nestedHolds hP shape attributes
    have hitems := hk.itemsLevelHolds hP items attributes
    rw [DefinitionHolds, body]
    cases attributes.kind with
    | object => exact hshape
    | array => exact hitems
    | _ => trivial
  termination_by structural f => f

theorem nestedHolds (hk : r.Keeps k) (hP : r.Writes P) :
    ∀ (shape : Option Shape) (a : Attributes),
    NestedHolds P shape (r.fieldLevel a (r.shape shape))
  | none, a => hP.nested a [] [] false
  | some (.schema ⟨_, _, fields, extra⟩), a =>
    ⟨hP.nested a _ _ extra, _, hk.properties_nestedLevel a _ _ extra,
      hk.propertiesHold hP fields⟩
  | some (.inline fields extra), a =>
    ⟨hP.nested a _ _ extra, _, hk.properties_nestedLevel a _ _ extra,
      hk.propertiesHold hP fields⟩
  | some (.map _), _ => trivial
  termination_by structural shape => shape

theorem itemsLevelHolds (hk : r.Keeps k) (hP : r.Writes P) :
    ∀ (items : Option Items) (a : Attributes),
    ItemsLevelHolds P items (r.fieldLevel a (r.items items))
  | none, _ => trivial
  | some (.schema ⟨_, _, fields, _⟩), a =>
    ⟨_, lookup_fieldLevel_of_not_mem (by decide) a _, hP.standalone _ _, _,
      hk.properties_standaloneLevel _ _, hk.propertiesHold hP fields⟩
  | some (.fragment _), _ => trivial
  termination_by structural items => items

end

/-- What holds of every level that the rules write holds of every declared level. -/
theorem levelsHold (hk : r.Keeps k) (hP : r.Writes P) (s : Schema) :
    s.LevelsHold P (r.compile s) :=
  ⟨_, hk.compile_eq s, hP.standalone _ _, _, hk.properties_standaloneLevel _ _,
    hk.propertiesHold hP s.fields⟩

end Rules.Keeps

end StructuredOutput
