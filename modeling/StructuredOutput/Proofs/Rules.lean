import StructuredOutput.Dialect.Rules
import StructuredOutput.Proofs.Entries

/-!
# What rules write

Every level that a dialect writes is a row of groups: the keywords of the attributes, those
of a shape or of items, the default. A look-up in a level goes through the groups with
`Entries.lookup_append`; the statements here answer it for each group.
-/

namespace StructuredOutput

open Json (Value)

/-- The keywords that belong to attributes. -/
def Attributes.vocabulary : List String :=
  ["type", "description", "enum", "minimum", "maximum", "default"]

/-! ## Single members -/

/-- The member for a description, unless it is empty. -/
def descriptionMember (description : Option String) : Entries Value :=
  match description with
  | some d => if d.isEmpty then [] else [("description", .string d)]
  | none => []

theorem lookup_nonemptyMember (keyword name : String) (items : List Value) :
    (nonemptyMember name items).lookup keyword =
      if keyword = name ∧ items ≠ [] then some (.array items) else none := by
  unfold nonemptyMember
  cases items with
  | nil => simp
  | cons v rest => simp [Entries.lookup_cons]

theorem mapValues_nonemptyMember {f : String → Value → Value} {name : String}
    (h : ∀ items, f name (.array items) = .array items) (items : List Value) :
    (nonemptyMember name items).mapValues f = nonemptyMember name items := by
  unfold nonemptyMember
  split
  · rfl
  · rw [Entries.mapValues_cons, h]
    rfl

theorem lookup_boundMember (keyword name : String) (bound : Option Json.Number) :
    (boundMember name bound).lookup keyword =
      if keyword = name then bound.map Value.number else none := by
  cases bound <;> simp [boundMember, Entries.lookup_cons]

theorem lookup_descriptionMember (keyword : String) (description : Option String) :
    (descriptionMember description).lookup keyword =
      if keyword = "description" then (description.filter (!·.isEmpty)).map Value.string
      else none := by
  cases description with
  | none => simp [descriptionMember]
  | some d =>
    by_cases hd : d.isEmpty
    · simp [descriptionMember, hd, Option.filter]
    · simp [descriptionMember, hd, Option.filter, Entries.lookup_cons]

/-! ## Keywords of attributes -/

namespace Attributes

/-- Attributes as far as they are written: nothing empty, no bounds without a meaning, no
default `null`. -/
def settled (a : Attributes) : Attributes :=
  { a with
    description := a.description.filter (!·.isEmpty)
    choices := a.choices.filter (!·.isEmpty)
    minimum := a.minimum?
    maximum := a.maximum?
    default := a.default.filter (!·.isNull) }

variable (a : Attributes)

theorem keywords_eq : a.keywords =
    [("type", .string a.kind.name)] ++ descriptionMember a.description
      ++ nonemptyMember "enum" (a.choices.getD []) ++ boundMember "minimum" a.minimum?
      ++ boundMember "maximum" a.maximum? := rfl

theorem lookup_keywords (keyword : String) :
    a.keywords.lookup keyword =
      if keyword = "type" then some (.string a.kind.name)
      else if keyword = "description" then a.settled.description.map Value.string
      else if keyword = "enum" then a.settled.choices.map Value.array
      else if keyword = "minimum" then a.minimum?.map Value.number
      else if keyword = "maximum" then a.maximum?.map Value.number
      else none := by
  have hchoices : (nonemptyMember "enum" (a.choices.getD [])).lookup keyword
      = if keyword = "enum" then a.settled.choices.map Value.array else none := by
    rw [lookup_nonemptyMember]
    cases h : a.choices with
    | none => simp [settled, h]
    | some vs => cases vs <;> simp [settled, h, Option.filter]
  rw [keywords_eq, Entries.lookup_append, Entries.lookup_append, Entries.lookup_append,
    Entries.lookup_append, Entries.lookup_cons, lookup_descriptionMember, hchoices,
    lookup_boundMember, lookup_boundMember]
  split
  · rfl
  · by_cases hd : keyword = "description"
    · subst hd
      simp [settled]
    by_cases he : keyword = "enum"
    · subst he
      simp
    by_cases hm : keyword = "minimum"
    · subst hm
      simp
    simp [hd, he, hm]

theorem lookup_keywords_of_not_mem {keyword : String} (h : keyword ∉ vocabulary) :
    a.keywords.lookup keyword = none := by
  simp only [vocabulary, List.mem_cons, not_or] at h
  rw [lookup_keywords]
  simp [h]

theorem mem_vocabulary_of_mem_keywords {e : String × Value} (he : e ∈ a.keywords) :
    e.1 ∈ vocabulary :=
  Decidable.byContradiction fun h =>
    Entries.lookup_eq_none_iff.mp (a.lookup_keywords_of_not_mem h) e he rfl

/-- Settled attributes are written as before. -/
theorem keywords_settled : a.settled.keywords = a.keywords := by
  have hdescription :
      descriptionMember (a.description.filter (!·.isEmpty))
        = descriptionMember a.description := by
    cases a.description with
    | none => rfl
    | some d => by_cases hd : d.isEmpty <;> simp [descriptionMember, hd, Option.filter]
  have hchoices : (a.choices.filter (!·.isEmpty)).getD [] = a.choices.getD [] := by
    cases a.choices with
    | none => rfl
    | some vs => cases vs <;> rfl
  have hmin : a.settled.minimum? = a.minimum? := by
    by_cases h : a.kind.isNumeric <;> simp [settled, minimum?, h]
  have hmax : a.settled.maximum? = a.maximum? := by
    by_cases h : a.kind.isNumeric <;> simp [settled, maximum?, h]
  rw [keywords_eq, keywords_eq, hmin, hmax]
  simp only [settled, hdescription, hchoices]

end Attributes

/-! ## Levels -/

namespace Rules

variable (r : Rules)

theorem properties_eq (fields : Entries Field) :
    r.properties fields = fields.mapValues fun _ => r.field := by
  induction fields with
  | nil => rfl
  | cons e rest ih => simp [properties, ih]

@[simp] theorem names_properties (fields : Entries Field) :
    (r.properties fields).names = fields.names := by
  rw [properties_eq, Entries.names_mapValues]

theorem lookup_defaultKeyword (keyword : String) (a : Attributes) :
    (r.defaultKeyword a).lookup keyword =
      if keyword = "default" ∧ r.writesDefault then a.default else none := by
  unfold defaultKeyword
  cases a.default with
  | none => simp
  | some v => cases r.writesDefault <;> simp [Entries.lookup_cons]

theorem lookup_defaultKeyword_of_not_mem {keyword : String}
    (h : keyword ∉ Attributes.vocabulary) (a : Attributes) :
    (r.defaultKeyword a).lookup keyword = none := by
  have hdefault : keyword ≠ "default" := fun he => h (by rw [he]; decide)
  rw [lookup_defaultKeyword]
  simp [hdefault]

/-- The level of an object on its own. -/
def standaloneLevel (r : Rules) (required : List String) (properties : Entries Value) :
    Entries Value :=
  [("type", .string "object"), ("properties", .object properties),
    ("required", .texts required)]
    ++ r.closing properties.names

/-- The level of a field: what is written of its attributes, around what is written of its
shape or items. -/
def fieldLevel (r : Rules) (a : Attributes) (body : Entries Value) : Entries Value :=
  a.keywords ++ body ++ r.defaultKeyword a

/-- What is written of the shape of an object field, or of the items of an array field. -/
def body (r : Rules) (f : Field) : Entries Value :=
  match f.attributes.kind with
  | .object => r.shape f.shape
  | .array => r.items f.items
  | _ => []

theorem field_eq (f : Field) :
    r.field f = .object (r.fieldLevel f.attributes (r.body f)) := by
  cases f
  rfl

/-! What is done to keywords that do not belong to attributes is done to the body of a
level. -/

section

variable {r : Rules} {keyword : String}

theorem lookup_fieldLevel_of_not_mem (h : keyword ∉ Attributes.vocabulary) (a : Attributes)
    (body : Entries Value) :
    (r.fieldLevel a body).lookup keyword = body.lookup keyword := by
  rw [fieldLevel, Entries.lookup_append, Entries.lookup_append,
    a.lookup_keywords_of_not_mem h, r.lookup_defaultKeyword_of_not_mem h]
  simp

theorem adjust_fieldLevel (h : keyword ∉ Attributes.vocabulary) (f : Value → Value)
    (a : Attributes) (body : Entries Value) :
    (r.fieldLevel a body).adjust keyword f = r.fieldLevel a (body.adjust keyword f) := by
  rw [fieldLevel, Entries.adjust_append, Entries.adjust_append,
    Entries.adjust_of_lookup_eq_none (a.lookup_keywords_of_not_mem h),
    Entries.adjust_of_lookup_eq_none (r.lookup_defaultKeyword_of_not_mem h a), fieldLevel]

theorem mapValues_fieldLevel {f : String → Value → Value}
    (h : ∀ keyword ∈ Attributes.vocabulary, ∀ v, f keyword v = v) (a : Attributes)
    (body : Entries Value) :
    (r.fieldLevel a body).mapValues f = r.fieldLevel a (body.mapValues f) := by
  have hkeywords : a.keywords.mapValues f = a.keywords :=
    Entries.mapValues_eq_self fun e he => h e.1 (a.mem_vocabulary_of_mem_keywords he) e.2
  have hdefault : (r.defaultKeyword a).mapValues f = r.defaultKeyword a := by
    apply Entries.mapValues_eq_self
    intro e he
    have hmem : e.1 ∈ Attributes.vocabulary := by
      apply Decidable.byContradiction
      intro hnot
      have hnone := r.lookup_defaultKeyword_of_not_mem hnot a
      exact Entries.lookup_eq_none_iff.mp hnone e he rfl
    exact h e.1 hmem e.2
  rw [fieldLevel, Entries.mapValues_append, Entries.mapValues_append, hkeywords, hdefault,
    fieldLevel]

theorem keepNames_fieldLevel {keep : String → Bool}
    (h : ∀ keyword, keep keyword = false → keyword ∉ Attributes.vocabulary)
    (a : Attributes) (body : Entries Value) :
    (r.fieldLevel a body).keepNames keep = r.fieldLevel a (body.keepNames keep) := by
  have hkeywords : a.keywords.keepNames keep = a.keywords :=
    Entries.keepNames_eq_self fun keyword hdrop =>
      a.lookup_keywords_of_not_mem (h keyword hdrop)
  have hdefault : (r.defaultKeyword a).keepNames keep = r.defaultKeyword a :=
    Entries.keepNames_eq_self fun keyword hdrop =>
      r.lookup_defaultKeyword_of_not_mem (h keyword hdrop) a
  rw [fieldLevel, Entries.keepNames_append, Entries.keepNames_append, hkeywords, hdefault,
    fieldLevel]

end

end Rules

end StructuredOutput
