import StructuredOutput.Proofs.Schema.Declared
import StructuredOutput.Proofs.Schema.Parts

/-!
# Agreement of the plain dialects

Anthropic, Gemini and Ollama write the same documents but for two things: what closes a
declared level (`Rules.unclosed` leaves it out) and what becomes of fragments
(`Rules.verbatim` leaves them alone, and `Schema.mapFragments` does beforehand what the
rules do). The main statement is that with these two out of the way the three documents are
one, key order included.
-/

namespace StructuredOutput

open Json (Value)

/-! ## Fragments beforehand -/

/-- The schema with every hand-authored value rewritten: what is said of the values of
maps, and fragments of items. -/
def Schema.mapFragments (g : Value → Value) (s : Schema) : Schema := s.mapParts id g

namespace Rules

variable (r : Rules)

/-- The rules, but leaving fragments as they are. -/
def verbatim : Rules := { r with fragment := id }

/-- The rules, but without the keywords that close a declared level. -/
def unclosed : Rules := { r with closing := fun _ => [], nestedClosing := fun _ _ => [] }

theorem namesWhere_mapFragments (fields : Entries Field) :
    Schema.namesWhere r.verbatim.demands (mapPartsInFields id r.fragment fields)
      = Schema.namesWhere r.demands fields :=
  namesWhere_mapPartsInFields (fun _ => rfl) fields

mutual

theorem properties_mapFragments : ∀ fields : List (String × Field),
    r.verbatim.properties (mapPartsInFields id r.fragment fields) = r.properties fields
  | [] => rfl
  | (name, f) :: rest => by
    rw [mapPartsInFields, properties, properties, field_mapFragments f,
      properties_mapFragments rest]
  termination_by structural fields => fields

theorem field_mapFragments : ∀ f : Field,
    r.verbatim.field (mapPartsInField id r.fragment f) = r.field f
  | ⟨attributes, shape, items⟩ => by
    rw [mapPartsInField, Rules.field, Rules.field, shape_mapFragments shape,
      items_mapFragments items]
    rfl
  termination_by structural f => f

theorem shape_mapFragments : ∀ shape : Option Shape,
    r.verbatim.shape (mapPartsInShape id r.fragment shape) = r.shape shape
  | none => rfl
  | some (.schema ⟨_, _, fields, _⟩) => by
    rw [mapPartsInShape, Rules.shape, Rules.shape, properties_mapFragments fields,
      r.namesWhere_mapFragments]
    rfl
  | some (.inline fields _) => by
    rw [mapPartsInShape, Rules.shape, Rules.shape, properties_mapFragments fields,
      r.namesWhere_mapFragments]
    rfl
  | some (.map _) => rfl
  termination_by structural shape => shape

theorem items_mapFragments : ∀ items : Option Items,
    r.verbatim.items (mapPartsInItems id r.fragment items) = r.items items
  | none => rfl
  | some (.schema ⟨_, _, fields, _⟩) => by
    rw [mapPartsInItems, Rules.items, Rules.items, properties_mapFragments fields,
      r.namesWhere_mapFragments]
    rfl
  | some (.fragment _) => rfl
  termination_by structural items => items

end

/-- What becomes of fragments can be done to the schema beforehand. -/
theorem compile_mapFragments (s : Schema) :
    r.verbatim.compile (s.mapFragments r.fragment) = r.compile s := by
  rw [compile, compile, Schema.mapFragments, Schema.mapParts, properties_mapFragments,
    r.namesWhere_mapFragments]
  rfl

end Rules

/-! ## Levels without what closes them -/

/-- A declared level without the keywords that close it. -/
def withoutClosing (_ : Place) (level : Entries Value) : Entries Value :=
  level.keepNames fun keyword => keyword ∉ Rules.closingVocabulary

namespace Rules.Keeps

variable {r : Rules} {k : Retention} (hk : r.Keeps k)

include hk

theorem withProperties_standaloneLevel {f : Entries Value → Entries Value}
    {properties : Entries Value} (hf : (f properties).names = properties.names)
    (required : List String) :
    withProperties f (r.standaloneLevel required properties)
      = r.standaloneLevel required (f properties) := by
  have hclosing : (r.closing properties.names).lookup "properties" = none :=
    hk.lookup_closing _ _ (by decide) (by decide)
  rw [withProperties, standaloneLevel, Entries.adjust_append,
    Entries.adjust_of_lookup_eq_none hclosing, standaloneLevel, hf]
  rfl

theorem withProperties_nestedLevel {f : Entries Value → Entries Value}
    {properties : Entries Value} (hf : (f properties).names = properties.names)
    (a : Attributes) (required : List String) (extra : Bool) :
    withProperties f (r.fieldLevel a (r.nested required properties extra))
      = r.fieldLevel a (r.nested required (f properties) extra) := by
  have hrequired : (nonemptyMember "required" (required.map Value.string)).lookup
      "properties" = none := lookup_nonemptyMember _ _ _
  have hclosing : (r.nestedClosing properties.names extra).lookup "properties" = none :=
    hk.lookup_nestedClosing _ _ _ (by decide) (by decide)
  rw [withProperties, adjust_fieldLevel (by decide), nested, nested, hf,
    Entries.adjust_append, Entries.adjust_cons, Entries.adjust_of_lookup_eq_none hrequired,
    Entries.adjust_of_lookup_eq_none hclosing, if_pos rfl, Value.mapLevel]

theorem withoutClosing_standaloneLevel (required : List String)
    (properties : Entries Value) :
    withoutClosing .standalone (r.standaloneLevel required properties)
      = r.unclosed.standaloneLevel required properties := by
  have hclosing : (r.closing properties.names).keepNames (· ∉ closingVocabulary) = [] := by
    apply Entries.keepNames_eq_nil
    intro keyword hkeep
    simp only [closingVocabulary, List.mem_cons, not_or, decide_eq_true_eq] at hkeep
    exact hk.lookup_closing _ _ hkeep.1 hkeep.2.1
  rw [withoutClosing, standaloneLevel, Entries.keepNames_append, hclosing]
  rfl

theorem withoutClosing_nestedLevel (a : Attributes) (required : List String)
    (properties : Entries Value) (extra : Bool) :
    withoutClosing (.nested extra) (r.fieldLevel a (r.nested required properties extra))
      = r.unclosed.fieldLevel a (r.unclosed.nested required properties extra) := by
  have hattributes : ∀ keyword, decide (keyword ∉ closingVocabulary) = false →
      keyword ∉ Attributes.vocabulary := by
    intro keyword hdrop
    have hdisjoint : ∀ keyword ∈ closingVocabulary,
        keyword ∉ Attributes.vocabulary := by decide
    exact hdisjoint keyword (by simpa using hdrop)
  have hrequired : (nonemptyMember "required" (required.map Value.string)).keepNames
      (· ∉ closingVocabulary) = nonemptyMember "required" (required.map Value.string) := by
    cases required <;> rfl
  have hclosing : (r.nestedClosing properties.names extra).keepNames
      (· ∉ closingVocabulary) = [] := by
    apply Entries.keepNames_eq_nil
    intro keyword hkeep
    simp only [closingVocabulary, List.mem_cons, not_or, decide_eq_true_eq] at hkeep
    exact hk.lookup_nestedClosing _ _ _ hkeep.1 hkeep.2.1
  have hproperties : Entries.keepNames (· ∉ closingVocabulary)
        [("properties", Value.object properties)]
      = [("properties", .object properties)] := rfl
  rw [withoutClosing, keepNames_fieldLevel hattributes, nested, List.cons_append,
    ← List.singleton_append, Entries.keepNames_append, Entries.keepNames_append,
    hproperties, hrequired, hclosing]
  rfl

end Rules.Keeps

/-! ## Documents without what closes their levels -/

namespace Rules.Keeps

variable {r : Rules} {k : Retention}

section

variable {fields : Entries Field}
  (hfields : rewriteProperties withoutClosing fields (r.properties fields)
    = r.unclosed.properties fields)

include hfields

theorem rewrite_standaloneLevel (hk : r.Keeps k) (required : List String) :
    withoutClosing .standalone (withProperties (rewriteProperties withoutClosing fields)
        (r.standaloneLevel required (r.properties fields)))
      = r.unclosed.standaloneLevel required (r.unclosed.properties fields) := by
  have hnames : (rewriteProperties withoutClosing fields (r.properties fields)).names
      = (r.properties fields).names := by
    rw [hfields, names_properties, names_properties]
  rw [hk.withProperties_standaloneLevel hnames, hk.withoutClosing_standaloneLevel, hfields]

theorem rewrite_nestedLevel (hk : r.Keeps k) (a : Attributes) (required : List String)
    (extra : Bool) :
    withoutClosing (.nested extra)
        (withProperties (rewriteProperties withoutClosing fields)
          (r.fieldLevel a (r.nested required (r.properties fields) extra)))
      = r.unclosed.fieldLevel a
        (r.unclosed.nested required (r.unclosed.properties fields) extra) := by
  have hnames : (rewriteProperties withoutClosing fields (r.properties fields)).names
      = (r.properties fields).names := by
    rw [hfields, names_properties, names_properties]
  rw [hk.withProperties_nestedLevel hnames, hk.withoutClosing_nestedLevel, hfields]

end

-- The recursion of the compiler, each level without its closing.
mutual

theorem rewriteProperties_properties (hk : r.Keeps k) : ∀ fields : List (String × Field),
    rewriteProperties withoutClosing fields (r.properties fields)
      = r.unclosed.properties fields
  | [] => rfl
  | (name, f) :: rest => by
    rw [properties, r.field_eq, rewriteProperties, Value.mapLevel,
      rewriteDefinition_field hk f, rewriteProperties_properties hk rest, properties,
      r.unclosed.field_eq]
  termination_by structural fields => fields

theorem rewriteDefinition_field (hk : r.Keeps k) : ∀ f : Field,
    rewriteDefinition withoutClosing f (r.fieldLevel f.attributes (r.body f))
      = r.unclosed.fieldLevel f.attributes (r.unclosed.body f)
  | ⟨attributes, shape, items⟩ => by
    have hshape := rewriteNested_shape hk shape attributes
    have hitems := rewriteItems_items hk items attributes
    rw [rewriteDefinition, body, body]
    cases attributes.kind with
    | object => exact hshape
    | array => exact hitems
    | _ => rfl
  termination_by structural f => f

theorem rewriteNested_shape (hk : r.Keeps k) : ∀ (shape : Option Shape) (a : Attributes),
    rewriteNested withoutClosing shape (r.fieldLevel a (r.shape shape))
      = r.unclosed.fieldLevel a (r.unclosed.shape shape)
  | none, a => hk.withoutClosing_nestedLevel a [] [] false
  | some (.schema ⟨_, _, fields, extra⟩), a =>
    rewrite_nestedLevel (rewriteProperties_properties hk fields) hk a _ extra
  | some (.inline fields extra), a =>
    rewrite_nestedLevel (rewriteProperties_properties hk fields) hk a _ extra
  | some (.map _), _ => rfl
  termination_by structural shape => shape

theorem rewriteItems_items (hk : r.Keeps k) : ∀ (items : Option Items) (a : Attributes),
    rewriteItems withoutClosing items (r.fieldLevel a (r.items items))
      = r.unclosed.fieldLevel a (r.unclosed.items items)
  | none, _ => rfl
  | some (.schema ⟨_, _, fields, _⟩), a => by
    have hitem := rewrite_standaloneLevel (rewriteProperties_properties hk fields) hk
      (Schema.namesWhere r.demands fields)
    rw [rewriteItems, adjust_fieldLevel (by decide), Rules.items, Rules.items,
      Entries.adjust_cons, if_pos rfl, standalone, ← standaloneLevel,
      Value.mapLevel, hitem]
    rfl
  | some (.fragment _), _ => rfl
  termination_by structural items => items

end

/-- Without what closes its declared levels, a document is written by the rules without
closings. -/
theorem rewriteLevels_compile (hk : r.Keeps k) (s : Schema) :
    s.rewriteLevels withoutClosing (r.compile s) = r.unclosed.compile s := by
  have hfields := rewriteProperties_properties hk s.fields
  rw [hk.compile_eq, Schema.rewriteLevels, Value.mapLevel,
    rewrite_standaloneLevel hfields hk, compile]
  exact (hk.finish _).symm

end Rules.Keeps

/-! ## What levels say about extra names -/

/-- What a level says about names beyond its fields: on its own, if anything, and nested,
depending on its flag. -/
def SaysExtra (alone : Option Bool) (nested : Bool → Bool) : Place → Entries Value → Prop
  | .standalone, level => level.lookup "additionalProperties" = alone.map Value.boolean
  | .nested extra, level =>
    level.lookup "additionalProperties" = some (.boolean (nested extra))

theorem Rules.Keeps.saysExtra {r : Rules} {k : Retention} (hk : r.Keeps k)
    {alone : Option Bool}
    (halone : ∀ names,
      (r.closing names).lookup "additionalProperties" = alone.map Value.boolean)
    (s : Schema) : s.LevelsHold (SaysExtra alone k.extra) (r.compile s) := by
  refine hk.levelsHold ⟨?_, ?_⟩ s
  · intro required properties
    rw [SaysExtra, Rules.standaloneLevel, Entries.lookup_append, halone]
    rfl
  · intro a required properties extra
    rw [SaysExtra, Rules.lookup_fieldLevel_of_not_mem (by decide),
      hk.lookup_nested (by decide)]
    rfl

/-! ## Agreement -/

namespace Provider

/-- The documents of the plain dialects are one, but for what closes their declared levels,
once fragments state their orders. On its own a level says nothing about extra names, but
Ollama forbids them; nested it says what its flag says, but Anthropic forbids them. -/
theorem agree_without_closing (s : Schema) :
    let ordered := s.mapFragments Gemini.ordered
    (ordered.rewriteLevels withoutClosing (anthropic.compile ordered)
          = s.rewriteLevels withoutClosing (gemini.compile s)
        ∧ ordered.rewriteLevels withoutClosing (ollama.compile ordered)
          = s.rewriteLevels withoutClosing (gemini.compile s))
      ∧ ordered.LevelsHold (SaysExtra none fun _ => false) (anthropic.compile ordered)
      ∧ ordered.LevelsHold (SaysExtra (some false) id) (ollama.compile ordered)
      ∧ s.LevelsHold (SaysExtra none id) (gemini.compile s) := by
  intro ordered
  have hanthropic := Anthropic.keeps.rewriteLevels_compile ordered
  have hollama := Ollama.keeps.rewriteLevels_compile ordered
  have hgemini : s.rewriteLevels withoutClosing (gemini.compile s)
      = Anthropic.rules.unclosed.compile ordered := by
    calc s.rewriteLevels withoutClosing (gemini.compile s)
        = Gemini.rules.unclosed.compile s := Gemini.keeps.rewriteLevels_compile s
      _ = Gemini.rules.unclosed.verbatim.compile ordered :=
        (Gemini.rules.unclosed.compile_mapFragments s).symm
      _ = Anthropic.rules.unclosed.compile ordered := rfl
  refine ⟨⟨hanthropic.trans hgemini.symm, hollama.trans hgemini.symm⟩, ?_, ?_, ?_⟩
  · exact Anthropic.keeps.saysExtra (fun _ => rfl) ordered
  · exact Ollama.keeps.saysExtra (fun _ => rfl) ordered
  · exact Gemini.keeps.saysExtra (fun _ => rfl) s

end Provider

end StructuredOutput
