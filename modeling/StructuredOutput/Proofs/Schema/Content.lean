import StructuredOutput.Proofs.OpenAI.Strictify
import StructuredOutput.Proofs.Schema.Declared

/-!
# What a field holds

The kind of a field decides whether its shape or its items count. `Field.content` is what
counts: declared fields, the values of a map, or items. The main statement,
`Provider.definition_saysContent`, says of the definition of a field, in every dialect,
what stands under each keyword that leads further down in the document.
-/

namespace StructuredOutput

open Json (Value)

/-! ## Content -/

/-- What a field holds, as far as its kind lets it count. -/
inductive Content where
  | object (allowsExtra : Bool) (fields : Entries Field)
  | map (values : Value)
  | schemaItems (fields : Entries Field)
  | fragmentItems (fragment : Value)
  | nothing

namespace Content

/-- The content of an object field; without a shape it declares no fields and is closed. -/
def ofShape : Option Shape → Content
  | none => object false []
  | some (.schema ⟨_, _, fields, extra⟩) => object extra fields
  | some (.inline fields extra) => object extra fields
  | some (.map values) => map values

/-- The content of an array field. -/
def ofItems : Option Items → Content
  | none => nothing
  | some (.schema ⟨_, _, fields, _⟩) => schemaItems fields
  | some (.fragment fragment) => fragmentItems fragment

/-- The fields that are declared one level down. -/
def fields : Content → Entries Field
  | object _ fields => fields
  | schemaItems fields => fields
  | _ => []

end Content

/-- What the field holds. -/
def Field.content (f : Field) : Content :=
  match f.attributes.kind with
  | .object => .ofShape f.shape
  | .array => .ofItems f.items
  | _ => .nothing

/-! ## Distinct names -/

theorem distinctFields_nil : DistinctFields [] := ⟨List.nodup_nil, trivial⟩

theorem Content.distinct_ofShape {shape : Option Shape} (h : DistinctShape shape) :
    DistinctFields (ofShape shape).fields := by
  rcases shape with _ | (⟨⟨_, _, _, _⟩⟩ | ⟨_, _⟩ | _)
  · exact distinctFields_nil
  · exact h
  · exact h
  · exact distinctFields_nil

theorem Content.distinct_ofItems {items : Option Items} (h : DistinctItems items) :
    DistinctFields (ofItems items).fields := by
  rcases items with _ | (⟨⟨_, _, _, _⟩⟩ | _)
  · exact distinctFields_nil
  · exact h
  · exact distinctFields_nil

/-- Names are distinct one level down. -/
theorem Field.distinct_content {f : Field} (h : DistinctField f) :
    DistinctFields f.content.fields := by
  obtain ⟨attributes, shape, items⟩ := f
  obtain ⟨hshape, hitems⟩ := h
  rw [content]
  cases attributes.kind with
  | object => exact Content.distinct_ofShape hshape
  | array => exact Content.distinct_ofItems hitems
  | _ => exact distinctFields_nil

/-! ## What is written of content -/

/-- The keywords under which a document goes on. -/
def levelKeywords : List String :=
  ["properties", "items", "additionalProperties", "anyOf", "oneOf", "allOf"]

theorem not_mem_vocabulary_of_mem_levelKeywords {keyword : String}
    (h : keyword ∈ levelKeywords) : keyword ∉ Attributes.vocabulary := by
  have hdisjoint : ∀ keyword ∈ levelKeywords, keyword ∉ Attributes.vocabulary := by decide
  exact hdisjoint keyword h

/-- What an object says that it requires. On its own it always says so, as a field only if
it requires something. -/
def Place.required : Place → List String → Option Value
  | .standalone, names => some (.texts names)
  | .nested _, names => if names = [] then none else some (.texts names)

/-- The document goes on under one keyword only. -/
def GoesOnUnder (keyword : String) (v : Value) (level : Entries Value) : Prop :=
  ∀ other ∈ levelKeywords, level.lookup other = if other = keyword then some v else none

theorem GoesOnUnder.lookup {keyword : String} {v : Value} {level : Entries Value}
    (h : GoesOnUnder keyword v level) (hkeyword : keyword ∈ levelKeywords) :
    level.lookup keyword = some v := by
  rw [h keyword hkeyword, if_pos rfl]

theorem GoesOnUnder.of_lookup {keyword other : String} {v w : Value}
    {level : Entries Value} (h : GoesOnUnder keyword v level)
    (hother : other ∈ levelKeywords) (hw : level.lookup other = some w) :
    other = keyword ∧ v = w := by
  rw [h other hother] at hw
  split at hw
  · rename_i hkeyword
    exact ⟨hkeyword, Option.some.inj hw⟩
  · cases hw

namespace Rules

/-- The definition of a field in the finished document. -/
def definition (r : Rules) (f : Field) : Value := r.finish (r.field f)

/-- A fragment in the finished document. -/
def finishedFragment (r : Rules) (fragment : Value) : Value :=
  r.finish (r.fragment fragment)

/-- What a level says that declares the given fields. -/
structure SaysObject (r : Rules) (place : Place) (fields : Entries Field)
    (level : Entries Value) : Prop where
  properties : level.lookup "properties"
    = some (.object (fields.mapValues fun _ => r.definition))
  required : level.lookup "required" = place.required (Schema.namesWhere r.demands fields)
  /-- What is said of other names is whether there may be any. -/
  extra : ∀ v, level.lookup "additionalProperties" = some v →
    ∃ allowed, v = .boolean allowed
  nothing_else : ∀ keyword ∈ levelKeywords, keyword ≠ "properties" →
    keyword ≠ "additionalProperties" → level.lookup keyword = none

/-- What a level says of the content of its field. -/
def SaysContent (r : Rules) : Content → Entries Value → Prop
  | .object extra fields, level => r.SaysObject (.nested extra) fields level
  | .map values, level =>
    GoesOnUnder "additionalProperties" (r.finishedFragment values) level
  | .schemaItems fields, level =>
    ∃ item, r.SaysObject .standalone fields item ∧ GoesOnUnder "items" (.object item) level
  | .fragmentItems fragment, level =>
    GoesOnUnder "items" (r.finishedFragment fragment) level
  | .nothing, level => ∀ keyword ∈ levelKeywords, level.lookup keyword = none

/-- The keywords that are written of content. -/
def contentKeywords (r : Rules) : Content → Entries Value
  | .object extra fields =>
    r.nested (Schema.namesWhere r.demands fields) (r.properties fields) extra
  | .map values => [("additionalProperties", r.fragment values)]
  | .schemaItems fields =>
    [("items", r.standalone (Schema.namesWhere r.demands fields) (r.properties fields))]
  | .fragmentItems fragment => [("items", r.fragment fragment)]
  | .nothing => []

theorem shape_eq_contentKeywords (r : Rules) (shape : Option Shape) :
    r.shape shape = r.contentKeywords (.ofShape shape) := by
  rcases shape with _ | (⟨⟨_, _, _, _⟩⟩ | ⟨_, _⟩ | _)
  · rfl
  · rw [Rules.shape, Content.ofShape, contentKeywords]
  · rw [Rules.shape, Content.ofShape, contentKeywords]
  · rfl

theorem items_eq_contentKeywords (r : Rules) (items : Option Items) :
    r.items items = r.contentKeywords (.ofItems items) := by
  rcases items with _ | (⟨⟨_, _, _, _⟩⟩ | _)
  · rfl
  · rw [Rules.items, Content.ofItems, contentKeywords]
  · rfl

/-- Between its attributes and its default, a field is written by its content. -/
theorem body_eq (r : Rules) (f : Field) : r.body f = r.contentKeywords f.content := by
  rw [body, Field.content]
  cases f.attributes.kind with
  | object => exact r.shape_eq_contentKeywords f.shape
  | array => exact r.items_eq_contentKeywords f.items
  | _ => rfl

/-! ## Plain dialects -/

/-- What closes an object on its own says of other names at most whether there may be
any. -/
def ClosesByFlag (r : Rules) : Prop :=
  ∀ names v, (r.closing names).lookup "additionalProperties" = some v →
    ∃ allowed, v = .boolean allowed

namespace Keeps

variable {r : Rules} {k : Retention} (hk : r.Keeps k)

include hk

theorem definition_eq (f : Field) : r.definition f = r.field f := hk.finish _

theorem finishedFragment_eq (fragment : Value) :
    r.finishedFragment fragment = r.fragment fragment := hk.finish _

theorem mapValues_definition (fields : Entries Field) :
    fields.mapValues (fun _ => r.definition) = r.properties fields := by
  rw [properties_eq]
  apply Entries.mapValues_congr
  intro e _
  exact hk.definition_eq e.2

theorem saysObject_standaloneLevel (hclosing : r.ClosesByFlag) (fields : Entries Field) :
    r.SaysObject .standalone fields
      (r.standaloneLevel (Schema.namesWhere r.demands fields) (r.properties fields)) where
  properties := by
    rw [hk.mapValues_definition]
    exact hk.properties_standaloneLevel _ _
  required := hk.lookup_standaloneLevel (by decide) _ _
  extra v hv := by
    rw [standaloneLevel, Entries.lookup_append] at hv
    exact hclosing _ v hv
  nothing_else keyword hkeyword hp ha := by
    have houtside : ∀ keyword ∈ levelKeywords, keyword ≠ "additionalProperties" →
        keyword ∉ closingVocabulary ∧ keyword ≠ "type" ∧ keyword ≠ "required" := by decide
    obtain ⟨hclosed, htype, hrequired⟩ := houtside keyword hkeyword ha
    rw [hk.lookup_standaloneLevel hclosed, if_neg htype, if_neg hp, if_neg hrequired]

theorem saysObject_nestedLevel (a : Attributes) (fields : Entries Field) (extra : Bool) :
    r.SaysObject (.nested extra) fields (r.fieldLevel a
      (r.nested (Schema.namesWhere r.demands fields) (r.properties fields) extra)) := by
  have hsaid : SaysNested (r.fieldLevel a
        (r.nested (Schema.namesWhere r.demands fields) (r.properties fields) extra))
      (Schema.namesWhere r.demands fields) (r.properties fields) (k.extra extra) :=
    hk.saysNested fun _ hkeyword => lookup_fieldLevel_of_not_mem hkeyword a _
  refine ⟨?_, hsaid.required, ?_, ?_⟩
  · rw [hk.mapValues_definition]
    exact hsaid.properties
  · intro v hv
    rw [hsaid.extra] at hv
    exact ⟨_, (Option.some.inj hv).symm⟩
  · intro keyword hkeyword hp ha
    have hothers : ∀ keyword ∈ levelKeywords,
        keyword ≠ "propertyOrdering" ∧ keyword ≠ "required" := by decide
    obtain ⟨hordering, hrequired⟩ := hothers keyword hkeyword
    rw [lookup_fieldLevel_of_not_mem (not_mem_vocabulary_of_mem_levelKeywords hkeyword),
      hk.lookup_nested hordering, if_neg hp, if_neg fun h => hrequired h.1, if_neg ha]

omit hk in
theorem goesOnUnder_fieldLevel (a : Attributes) (keyword : String) (v : Value) :
    GoesOnUnder keyword v (r.fieldLevel a [(keyword, v)]) := by
  intro other hother
  rw [lookup_fieldLevel_of_not_mem (not_mem_vocabulary_of_mem_levelKeywords hother),
    Entries.lookup_cons, List.lookup_nil]

/-- The level of a field says what the field holds. -/
theorem saysContent_fieldLevel (hclosing : r.ClosesByFlag) (f : Field) :
    r.SaysContent f.content (r.fieldLevel f.attributes (r.body f)) := by
  rw [body_eq]
  cases f.content with
  | object extra fields => exact hk.saysObject_nestedLevel f.attributes fields extra
  | map values =>
    rw [SaysContent, hk.finishedFragment_eq]
    exact goesOnUnder_fieldLevel f.attributes _ _
  | schemaItems fields =>
    exact ⟨_, hk.saysObject_standaloneLevel hclosing fields,
      goesOnUnder_fieldLevel f.attributes _ _⟩
  | fragmentItems fragment =>
    rw [SaysContent, hk.finishedFragment_eq]
    exact goesOnUnder_fieldLevel f.attributes _ _
  | nothing =>
    intro keyword hkeyword
    rw [lookup_fieldLevel_of_not_mem (not_mem_vocabulary_of_mem_levelKeywords hkeyword)]
    rfl

theorem definition_saysContent (hclosing : r.ClosesByFlag) (f : Field) :
    ∃ level, r.definition f = .object level ∧ r.SaysContent f.content level := by
  refine ⟨_, ?_, hk.saysContent_fieldLevel hclosing f⟩
  rw [hk.definition_eq, field_eq]

theorem compile_saysObject (hclosing : r.ClosesByFlag) (s : Schema) :
    ∃ level, r.compile s = .object level ∧ r.SaysObject .standalone s.fields level :=
  ⟨_, hk.compile_eq s, hk.saysObject_standaloneLevel hclosing s.fields⟩

end Keeps

end Rules

theorem Anthropic.closesByFlag : Anthropic.rules.ClosesByFlag := by
  intro names v h
  cases h

theorem Gemini.closesByFlag : Gemini.rules.ClosesByFlag := by
  intro names v h
  cases h

theorem Ollama.closesByFlag : Ollama.rules.ClosesByFlag := by
  intro names v h
  exact ⟨false, (Option.some.inj h).symm⟩

/-! ## Strict mode -/

namespace OpenAI

/-- The content of a field that is made strict. -/
def strictifyContent : Content → Content
  | .object _ fields => .object false (strictifyFields fields)
  | .map values => .map (strictifyFragment values)
  | .schemaItems fields => .schemaItems (strictifyFields fields)
  | .fragmentItems fragment => .fragmentItems (strictifyFragment fragment)
  | .nothing => .nothing

theorem ofShape_strictifyShape (shape : Option Shape) :
    Content.ofShape (strictifyShape shape) = strictifyContent (.ofShape shape) := by
  rcases shape with _ | (⟨⟨_, _, _, _⟩⟩ | ⟨_, _⟩ | _)
  · rfl
  · rw [strictifyShape, Content.ofShape, Content.ofShape, strictifyContent]
  · rw [strictifyShape, Content.ofShape, Content.ofShape, strictifyContent]
  · rfl

theorem ofItems_strictifyItems (items : Option Items) :
    Content.ofItems (strictifyItems items) = strictifyContent (.ofItems items) := by
  rcases items with _ | (⟨⟨_, _, _, _⟩⟩ | _)
  · rfl
  · rw [strictifyItems, Content.ofItems, Content.ofItems, strictifyContent]
  · rfl

theorem content_strictifyField (f : Field) :
    (strictifyField f).content = strictifyContent f.content := by
  obtain ⟨attributes, shape, items⟩ := f
  have hkind : (strictifyAttributes attributes).kind = attributes.kind := rfl
  rw [strictifyField, Field.content, Field.content, hkind]
  cases attributes.kind with
  | object => exact ofShape_strictifyShape shape
  | array => exact ofItems_strictifyItems items
  | _ => rfl

theorem definition_eq (f : Field) :
    rules.definition f = Ollama.rules.definition (strictifyField f) := cleaned_field f

/-- What the plain dialect says of strictified fields is what strict mode says of the
fields. -/
theorem saysObject_of_strictifyFields {place strictPlace : Place}
    (hplace : strictPlace.required = place.required) {fields : Entries Field}
    {level : Entries Value}
    (h : Ollama.rules.SaysObject strictPlace (strictifyFields fields) level) :
    rules.SaysObject place fields level where
  properties := by
    have hdefinitions : (strictifyFields fields).mapValues
          (fun _ => Ollama.rules.definition)
        = fields.mapValues fun _ => rules.definition := by
      rw [strictifyFields_eq, Entries.mapValues_mapValues]
      apply Entries.mapValues_congr
      intro e _
      exact (definition_eq e.2).symm
    rw [← hdefinitions]
    exact h.properties
  required := by
    rw [h.required, hplace, namesWhere_strictifyFields, namesWhere_demands]
  extra := h.extra
  nothing_else := h.nothing_else

theorem saysContent_of_strictifyContent {content : Content} {level : Entries Value}
    (h : Ollama.rules.SaysContent (strictifyContent content) level) :
    rules.SaysContent content level := by
  cases content with
  | object extra fields =>
    -- Strict mode closes the object, which changes nothing in what it requires.
    have hplace : (Place.nested false).required = (Place.nested extra).required := rfl
    exact saysObject_of_strictifyFields hplace h
  | map values => exact h
  | schemaItems fields =>
    obtain ⟨item, hitem, honly⟩ := h
    exact ⟨item, saysObject_of_strictifyFields rfl hitem, honly⟩
  | fragmentItems fragment => exact h
  | nothing => exact h

end OpenAI

/-! ## Every dialect -/

namespace Provider

/-- The definition of a field is a level that says what the field holds. -/
theorem definition_saysContent (p : Provider) (f : Field) :
    ∃ level, p.rules.definition f = .object level
      ∧ p.rules.SaysContent f.content level := by
  cases p with
  | openAI =>
    obtain ⟨level, hlevel, hsaid⟩ :=
      Ollama.keeps.definition_saysContent Ollama.closesByFlag (OpenAI.strictifyField f)
    rw [OpenAI.content_strictifyField] at hsaid
    exact ⟨level, (OpenAI.definition_eq f).trans hlevel,
      OpenAI.saysContent_of_strictifyContent hsaid⟩
  | anthropic => exact Anthropic.keeps.definition_saysContent Anthropic.closesByFlag f
  | gemini => exact Gemini.keeps.definition_saysContent Gemini.closesByFlag f
  | ollama => exact Ollama.keeps.definition_saysContent Ollama.closesByFlag f

/-- A document is a level that declares the fields of its schema. -/
theorem compile_saysObject (p : Provider) (s : Schema) :
    ∃ level, p.compile s = .object level
      ∧ p.rules.SaysObject .standalone s.fields level := by
  cases p with
  | openAI =>
    obtain ⟨level, hlevel, hsaid⟩ :=
      Ollama.keeps.compile_saysObject Ollama.closesByFlag (OpenAI.strictify s)
    exact ⟨level, (OpenAI.rules_compile s).trans hlevel,
      OpenAI.saysObject_of_strictifyFields rfl hsaid⟩
  | anthropic => exact Anthropic.keeps.compile_saysObject Anthropic.closesByFlag s
  | gemini => exact Gemini.keeps.compile_saysObject Gemini.closesByFlag s
  | ollama => exact Ollama.keeps.compile_saysObject Ollama.closesByFlag s

end Provider

end StructuredOutput
