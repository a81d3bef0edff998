import StructuredOutput.Schema.Encode
import StructuredOutput.Proofs.Rules
import StructuredOutput.Proofs.Schema.Settled

/-!
# Schemas that documents describe

What is read from a document is settled, at every level. Here is the other direction:
`Schema.spell` is a document that says all there is to say about a settled schema, so that
reading it gives the schema itself (`Schema.ofDocument_spell`). The main statement is that
documents describe the settled schemas and no others, as long as fields of one name agree
on being required.
-/

namespace StructuredOutput

open Json (Value)

/-! ## Writing a schema out -/

/-- The keywords of attributes, as far as they are given. -/
def Attributes.spell (a : Attributes) : Entries Value :=
  [("type", .string a.kind.name)]
    ++ optionalMember "description" (a.description.map .string)
    ++ optionalMember "enum" (a.choices.map .array)
    ++ optionalMember "minimum" (a.minimum.map .number)
    ++ optionalMember "maximum" (a.maximum.map .number)
    ++ optionalMember "default" a.default

/-- The keywords that declare fields: their definitions, the names of those that are
required, and whether there may be others. -/
def Document.declaration (definitions : Entries Value) (required : List String)
    (extra : Bool) :
    Entries Value := [
  ("properties", .object definitions),
  ("required", .texts required),
  ("additionalProperties", .boolean extra)]

mutual

def spellFields : List (String × Field) → Entries Value
  | [] => []
  | (name, f) :: rest => (name, spellField f) :: spellFields rest
  termination_by structural fields => fields

/-- The definition that says everything about a field. -/
def spellField : Field → Value
  | ⟨attributes, shape, items⟩ =>
    .object (attributes.spell ++ spellShape shape ++ spellItems items)
  termination_by structural f => f

/-- The keywords for a shape. Declared in place, it is taken to be closed and empty. -/
def spellShape : Option Shape → Entries Value
  | none => []
  | some (.schema ⟨_, _, fields, extra⟩) =>
    Document.declaration (spellFields fields) (Schema.namesWhere (·.required) fields) extra
  | some (.inline _ _) => [("additionalProperties", .boolean false)]
  | some (.map values) => [("additionalProperties", values)]
  termination_by structural shape => shape

def spellItems : Option Items → Entries Value
  | none => []
  | some (.schema ⟨_, description, fields, extra⟩) => [("items", .object (
      ("type", .string "object") :: ("description", .string description)
        :: Document.declaration (spellFields fields)
          (Schema.namesWhere (·.required) fields) extra))]
  | some (.fragment fragment) => [("items", fragment)]
  termination_by structural items => items

end

/-- The document that says everything about a schema. -/
def Schema.spell (s : Schema) : Value :=
  .object (("title", .string s.name) :: ("description", .string s.description)
    :: Document.declaration (spellFields s.fields)
      (Schema.namesWhere (·.required) s.fields) s.allowsExtra)

/-! ## Attributes -/

theorem lookup_optionalMember (keyword name : String) (value : Option Value) :
    (optionalMember name value).lookup keyword = if keyword = name then value
    else none := by
  cases value <;> simp [optionalMember, Entries.lookup_cons]

namespace Attributes

theorem lookup_spell (a : Attributes) (keyword : String) :
    a.spell.lookup keyword =
      if keyword = "type" then some (.string a.kind.name)
      else if keyword = "description" then a.description.map .string
      else if keyword = "enum" then a.choices.map .array
      else if keyword = "minimum" then a.minimum.map .number
      else if keyword = "maximum" then a.maximum.map .number
      else if keyword = "default" then a.default
      else none := by
  simp only [spell, Entries.lookup_append, Entries.lookup_cons, lookup_optionalMember,
    List.lookup_nil]
  grind

section

variable (a : Attributes) {body : Entries Value}

theorem lookup_spell_append_of_not_mem {keyword : String} (h : keyword ∉ vocabulary) :
    (a.spell ++ body).lookup keyword = body.lookup keyword := by
  simp only [vocabulary, List.mem_cons, not_or] at h
  rw [Entries.lookup_append, lookup_spell]
  simp [h]

variable (hbody : ∀ keyword ∈ vocabulary, body.lookup keyword = none)

include hbody

theorem lookup_spell_append {keyword : String} (h : keyword ∈ vocabulary) :
    (a.spell ++ body).lookup keyword = a.spell.lookup keyword := by
  rw [Entries.lookup_append, hbody keyword h, Option.or_none]

theorem kindOf_spell : Document.kindOf (a.spell ++ body) = a.kind := by
  rw [Document.kindOf, Json.text?, a.lookup_spell_append hbody (by decide), lookup_spell]
  exact Kind.ofName_name a.kind

theorem bound_spell {keyword : String} (h : keyword ∈ vocabulary)
    {bound : Option Json.Number} (hbound : a.spell.lookup keyword = bound.map .number) :
    Document.bound keyword (a.spell ++ body) = bound := by
  rw [Document.bound, a.lookup_spell_append hbody h, hbound]
  cases bound <;> rfl

theorem text?_description_spell :
    Json.text? "description" (a.spell ++ body) = a.description := by
  rw [Json.text?, a.lookup_spell_append hbody (by decide), lookup_spell]
  cases a.description <;> rfl

end

/-- What is written of the attributes of a settled field is read as it was. -/
theorem attributesOf_spell {name : String} {f : Field} (hf : f.Settled name)
    {body : Entries Value} (hbody : ∀ keyword ∈ vocabulary, body.lookup keyword = none) :
    Document.attributesOf f.attributes.required (f.attributes.spell ++ body)
      = f.attributes := by
  generalize ha : f.attributes = a
  have hdescription : a.description.filter (!·.isEmpty) = a.description := by
    have hne := ha ▸ hf.description
    cases hd : a.description with
    | none => rfl
    | some d =>
      apply Option.filter_some_pos
      simpa [hd] using hne
  have hdefault : a.default.filter (!·.isNull) = a.default := by
    have hne := ha ▸ hf.default
    cases hd : a.default with
    | none => rfl
    | some v =>
      apply Option.filter_some_pos
      cases v <;> simp_all [Value.isNull]
  have hchoices : ((a.spell ++ body).lookup "enum").bind Value.array? = a.choices := by
    rw [a.lookup_spell_append hbody (by decide), lookup_spell]
    cases a.choices <;> rfl
  have hminimum : (if a.kind.isNumeric then a.minimum else none) = a.minimum :=
    ha ▸ hf.minimum
  have hmaximum : (if a.kind.isNumeric then a.maximum else none) = a.maximum :=
    ha ▸ hf.maximum
  rw [Document.attributesOf, a.kindOf_spell hbody, a.text?_description_spell hbody,
    hchoices, a.bound_spell hbody (by decide) (a.lookup_spell "minimum"),
    a.bound_spell hbody (by decide) (a.lookup_spell "maximum"),
    a.lookup_spell_append hbody (by decide), a.lookup_spell, hdescription,
    hminimum, hmaximum]
  simp only [reduceIte, String.reduceEq, hdefault]

end Attributes

/-! ## Levels that declare fields -/

namespace Document

/-- What a level says that declares fields. -/
structure Declared (definitions : Entries Value) (required : List String) (extra : Bool)
    (level : Entries Value) : Prop where
  properties : level.lookup "properties" = some (.object definitions)
  required : level.lookup "required" = some (.texts required)
  extra : level.lookup "additionalProperties" = some (.boolean extra)

variable {definitions level : Entries Value} {required : List String} {extra : Bool}

/-- The schema that a declaration describes. -/
theorem Declared.schemaAt_eq (h : Declared definitions required extra level)
    (name : String) :
    schemaAt name level (fieldsOf (requiredNames level) level)
      = ⟨name, textOrEmpty "description" level, fieldsOfDefinitions required definitions,
        extra⟩ := by
  rw [schemaAt, requiredNames_of_texts h.required, fieldsOf_of_properties h.properties,
    allowsExtra, h.extra]

end Document

/-! ## Reading what is written -/

/-- What is written of a shape or of items is not about attributes. -/
theorem lookup_spellBody_of_mem {keyword : String} (h : keyword ∈ Attributes.vocabulary)
    (shape : Option Shape) (items : Option Items) :
    (spellShape shape ++ spellItems items).lookup keyword = none := by
  have houtside : ∀ keyword ∈ Attributes.vocabulary, keyword ≠ "properties"
      ∧ keyword ≠ "required" ∧ keyword ≠ "additionalProperties"
        ∧ keyword ≠ "items" := by decide
  obtain ⟨hp, hr, ha, hi⟩ := houtside keyword h
  have hshape : (spellShape shape).lookup keyword = none := by
    rcases shape with _ | (⟨⟨_, _, _, _⟩⟩ | ⟨_, _⟩ | _) <;>
      simp [spellShape, Document.declaration, Entries.lookup_cons, hp, hr, ha]
  have hitems : (spellItems items).lookup keyword = none := by
    rcases items with _ | (⟨⟨_, _, _, _⟩⟩ | _) <;>
      simp [spellItems, Entries.lookup_cons, hi]
  rw [Entries.lookup_append, hshape, hitems, Option.or_none]

-- The recursion of the writer, read back level by level. It is carried by what documents
-- tell of every level: that its fields are settled, and that names tell them apart.
mutual

theorem fieldsOfDefinitions_spellFields :
    ∀ (fields : List (String × Field)) (required : List String),
    (∀ e ∈ fields, required.contains e.1 = e.2.attributes.required) →
    SettledFields fields → FieldsHold SettledFields (fun _ => True) fields →
    FieldsHold FlagsByName (fun _ => True) fields →
    Document.fieldsOfDefinitions required (spellFields fields) = fields
  | [], _, _, _, _, _ => rfl
  | (name, f) :: rest, required, hflags, hlevel, hsettled, hnamed => by
    obtain ⟨hflag, hflags⟩ := List.forall_mem_cons.mp hflags
    obtain ⟨hf, hlevel⟩ := List.forall_mem_cons.mp hlevel
    rw [spellFields, Document.fieldsOfDefinitions, hflag,
      fieldOf_spellField f name hf hsettled.1 hnamed.1,
      fieldsOfDefinitions_spellFields rest required hflags hlevel hsettled.2 hnamed.2]
  termination_by structural fields => fields

theorem fieldOf_spellField : ∀ (f : Field) (name : String), f.Settled name →
    FieldHolds SettledFields (fun _ => True) f → FieldHolds FlagsByName (fun _ => True) f →
    Document.fieldOf name f.attributes.required (spellField f) = f
  | ⟨attributes, shape, items⟩, name, hf, hsettled, hnamed => by
    have hbody : ∀ keyword ∈ Attributes.vocabulary,
        (spellShape shape ++ spellItems items).lookup keyword = none :=
      fun _ h => lookup_spellBody_of_mem h shape items
    have hattributes := Attributes.attributesOf_spell hf hbody
    have hkind := attributes.kindOf_spell hbody
    have hshape := shapeAt_spellShape shape name attributes.description hf.shape
      hsettled.1 hnamed.1
    have hitems := itemsOf_spellItems items name hf.items hsettled.2 hnamed.2
    have hlevel (keyword : String) (h : keyword ∉ Attributes.vocabulary) :
        (attributes.spell ++ (spellShape shape ++ spellItems items)).lookup keyword
          = (spellShape shape ++ spellItems items).lookup keyword :=
      attributes.lookup_spell_append_of_not_mem h
    rw [spellField, List.append_assoc, Document.fieldOf, Document.fieldAt, hattributes,
      hkind, Document.itemsIn_eq, hlevel _ (by decide)]
    congr 1
    · split
      · rename_i hobject
        have hnone : items = none := hf.items_kind (by rw [hobject]; decide)
        subst hnone
        have hdescription := attributes.text?_description_spell
          fun keyword h => lookup_spellBody_of_mem h shape none
        apply hshape
        · rw [Document.textOrEmpty, hdescription]
        · intro keyword h
          rw [hlevel keyword h, spellItems, List.append_nil]
      · rename_i hother
        exact (hf.shape_kind hother).symm
    · split
      · rename_i harray
        have hnone : shape = none := hf.shape_kind (by rw [harray]; decide)
        subst hnone
        exact hitems
      · rename_i hother
        exact (hf.items_kind hother).symm
  termination_by structural f => f

theorem shapeAt_spellShape :
    ∀ (shape : Option Shape) (name : String) (description : Option String),
    (∀ s, shape = some s → s.Settled name description) →
    ShapeHolds SettledFields (fun _ => True) shape →
    ShapeHolds FlagsByName (fun _ => True) shape →
    ∀ level : Entries Value,
    Document.textOrEmpty "description" level = description.getD "" →
    (∀ keyword ∉ Attributes.vocabulary,
      level.lookup keyword = (spellShape shape).lookup keyword) →
    Document.shapeAt name level (Document.fieldsOf (Document.requiredNames level) level)
      = shape
  | none, name, description, hshape, hsettled, hnamed, level, hdescription, hlevel => by
    have hp : level.lookup "properties" = none := hlevel _ (by decide)
    have ha : level.lookup "additionalProperties" = none := hlevel _ (by decide)
    rw [Document.shapeAt, Document.hasProperties_of_lookup_none hp, ha]
    rfl
  | some (.schema ⟨_, _, fields, extra⟩), name, description, hshape, hsettled, hnamed,
      level, hdescription, hlevel => by
    have hfields := fieldsOfDefinitions_spellFields fields _
      (fun e he => hnamed.1.contains_namesWhere he) hsettled.1 hsettled.2 hnamed.2
    have hdeclared : Document.Declared (spellFields fields)
        (Schema.namesWhere (·.required) fields) extra level :=
      ⟨hlevel _ (by decide), hlevel _ (by decide), hlevel _ (by decide)⟩
    cases hshape _ rfl
    rw [Document.shapeAt, if_pos (Document.hasProperties_of_lookup hdeclared.properties),
      hdeclared.schemaAt_eq, hdescription, hfields]
  | some (.inline fields extra), name, description, hshape, hsettled, hnamed, level,
      hdescription, hlevel => by
    have hp : level.lookup "properties" = none := hlevel _ (by decide)
    have ha : level.lookup "additionalProperties" = some (.boolean false) :=
      hlevel _ (by decide)
    cases hshape _ rfl
    rw [Document.shapeAt, Document.hasProperties_of_lookup_none hp, ha]
    rfl
  | some (.map values), name, description, hshape, hsettled, hnamed, level, hdescription,
      hlevel => by
    have hp : level.lookup "properties" = none := hlevel _ (by decide)
    have ha : level.lookup "additionalProperties" = some values := hlevel _ (by decide)
    rw [Document.shapeAt, Document.hasProperties_of_lookup_none hp, ha]
    cases hshape _ rfl <;> rfl
  termination_by structural shape => shape

theorem itemsOf_spellItems : ∀ (items : Option Items) (name : String),
    (∀ i, items = some i → i.Settled name) →
    ItemsHold SettledFields (fun _ => True) items →
    ItemsHold FlagsByName (fun _ => True) items →
    ((spellItems items).lookup "items").map (Document.itemsOf name) = items
  | none, _, _, _, _ => rfl
  | some (.schema ⟨_, description, fields, extra⟩), name, hitems, hsettled, hnamed => by
    have hfields := fieldsOfDefinitions_spellFields fields _
      (fun e he => hnamed.1.contains_namesWhere he) hsettled.1 hsettled.2 hnamed.2
    cases hitems _ rfl with
    | described _ _ _ hdescription =>
      have hdeclared : Document.Declared (spellFields fields)
          (Schema.namesWhere (·.required) fields) extra
          (("type", .string "object") :: ("description", .string description)
            :: Document.declaration (spellFields fields)
              (Schema.namesWhere (·.required) fields) extra) := ⟨rfl, rfl, rfl⟩
      have hempty : description.isEmpty = false := by simpa using hdescription
      show some (Document.itemsOf name (.object _)) = _
      rw [Document.itemsOf, Document.itemsAt, hdeclared.schemaAt_eq, hfields,
        Document.hasProperties_of_lookup hdeclared.properties]
      show some (Items.schema ⟨_, if description.isEmpty then _ else description, _, _⟩)
          = _
      rw [hempty]
      rfl
  | some (.fragment fragment), name, hitems, _, _ => by
    cases hitems _ rfl with
    | fragment level h =>
      show some (Document.itemsAt name level _) = _
      rw [Document.itemsAt, if_neg]
      exact Bool.not_eq_true _ ▸ h
  termination_by structural items => items

end

/-- The document of a settled schema says everything about it. -/
theorem Schema.ofDocument_spell {s : Schema} (hsettled : s.Settled) (hnamed : s.Coherent) :
    ofDocument s.spell = s := by
  obtain ⟨name, description, fields, extra⟩ := s
  have hfields := fieldsOfDefinitions_spellFields fields _
    (fun e he => hnamed.1.contains_namesWhere he) hsettled.1 hsettled.2 hnamed.2
  have hdeclared : Document.Declared (spellFields fields)
      (namesWhere (·.required) fields) extra
      (("title", .string name) :: ("description", .string description)
        :: Document.declaration (spellFields fields) (namesWhere (·.required) fields)
          extra) :=
    ⟨rfl, rfl, rfl⟩
  rw [spell, ofDocument, hdeclared.schemaAt_eq, hfields]
  rfl

/-- Documents describe just the schemas whose fields are settled at every level, and told
apart by name as far as being required goes. -/
theorem Schema.exists_document_iff (s : Schema) :
    (∃ d, ofDocument d = s) ↔ s.Settled ∧ s.Coherent := by
  constructor
  · rintro ⟨d, rfl⟩
    exact ⟨Document.settled_ofDocument d, Document.coherent_ofDocument d⟩
  · rintro ⟨hsettled, hnamed⟩
    exact ⟨s.spell, ofDocument_spell hsettled hnamed⟩

end StructuredOutput
