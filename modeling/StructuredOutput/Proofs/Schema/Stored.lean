import StructuredOutput.Schema.Encode
import StructuredOutput.Proofs.Schema.Decode
import StructuredOutput.Proofs.Schema.Parts
import StructuredOutput.Proofs.Schema.Settled

/-!
# Storing a schema and reading it again

The stored form of a schema says everything about it but one thing: an optional member that
is `null` counts as missing, so a default `null` is lost. `Schema.withoutNullDefaults` is
what is left. `Schema.decode_encode` says that storing and reading gives just that, which
is the schema itself if it comes from a document or was read from a stored form before.
`Schema.decode_encode_eq_self_iff` says which schemas come back as they were.
-/

namespace StructuredOutput

open Json (Value)

/-! ## What the stored form keeps -/

/-- The attributes with a default `null` left out. -/
def Attributes.withoutNullDefault (a : Attributes) : Attributes :=
  { a with default := a.default.filter (!·.isNull) }

/-- The schema with every default `null` left out, at every level. -/
def Schema.withoutNullDefaults (s : Schema) : Schema :=
  s.mapParts Attributes.withoutNullDefault id

/-! ## Reading the stored form -/

namespace Decode

theorem kind_name (k : Kind) : kind (.string k.name) = .ok k := by
  rw [kind, kind.named, Kind.ofName?_name]

theorem fieldMembers_append (draft : FieldDraft) (members others : Entries Value) :
    fieldMembers draft (members ++ others)
      = fieldMembers draft members >>= fun draft => fieldMembers draft others := by
  induction members generalizing draft with
  | nil => rfl
  | cons m rest ih =>
    rw [List.cons_append, fieldMembers, fieldMembers]
    split
    · simp only [bind_assoc, ih]
    · exact ih draft

/-- Reading the members takes one draft to the other. -/
def Takes (draft : FieldDraft) (members : Entries Value) (draft' : FieldDraft) : Prop :=
  fieldMembers draft members = .ok draft'

section

variable {draft draft' draft'' : FieldDraft}

theorem Takes.append {members others : Entries Value} (h : Takes draft members draft')
    (h' : Takes draft' others draft'') : Takes draft (members ++ others) draft'' := by
  rw [Takes, fieldMembers_append, h]
  exact h'

theorem takes_member {name : String} {member : FieldMember} {v : Value}
    (hname : FieldMember.ofName? name = some member)
    (h : fieldMember draft member v (fun _ => shapeOrNull v)
      (fun _ => itemsOrNull v) = .ok draft') : Takes draft [(name, v)] draft' := by
  rw [Takes, fieldMembers, hname]
  simp only [h]
  rfl

/-- A member that is written only if there is something to say. -/
theorem takes_optionalMember {α : Type} (name : String) {member : FieldMember}
    (hname : FieldMember.ofName? name = some member) (write : α → Value)
    (put : Option α → FieldDraft)
    (h : ∀ a, fieldMember (put none) member (write a) (fun _ => shapeOrNull (write a))
      (fun _ => itemsOrNull (write a)) = .ok (put (some a)))
    (value : Option α) :
    Takes (put none) (optionalMember name (value.map write)) (put value) := by
  cases value with
  | none => rfl
  | some a => exact takes_member hname (h a)

end

/-- What is read back is the kind, which is kept apart, and everything else. -/
theorem takes_attributes (a : Attributes) :
    Takes {} a.encode
      { kind := some a.kind,
        attributes := { a.withoutNullDefault with kind := .string } } := by
  obtain ⟨kind, description, required, choices, minimum, maximum, default⟩ := a
  have hkind : Takes {} [("type", .string kind.name)] { kind } := by
    apply takes_member rfl
    rw [fieldMember, kind_name]
    rfl
  have hdescription := takes_optionalMember "description" rfl .string
    (fun description => { kind, attributes := { kind := .string, description } })
    (fun _ => rfl) description
  have hrequired : Takes { kind, attributes := { kind := .string, description } }
      [("required", .boolean required)]
      { kind, attributes := { kind := .string, description, required } } :=
    takes_member rfl rfl
  have hchoices := takes_optionalMember "enum" rfl .array
    (fun choices =>
      { kind, attributes := { kind := .string, description, required, choices } })
    (fun _ => rfl) choices
  have hminimum := takes_optionalMember "minimum" rfl .number
    (fun minimum =>
      { kind, attributes := { kind := .string, description, required, choices, minimum } })
    (fun _ => rfl) minimum
  have hmaximum := takes_optionalMember "maximum" rfl .number
    (fun maximum =>
      { kind,
        attributes :=
          { kind := .string, description, required, choices, minimum, maximum } })
    (fun _ => rfl) maximum
  have hdefault := takes_optionalMember "default" rfl id
    (fun default => {
      kind
      attributes := Attributes.withoutNullDefault
        ⟨.string, description, required, choices, minimum, maximum, default⟩ })
    (fun v => by cases v <;> rfl) default
  rw [Option.map_id] at hdefault
  exact (((((hkind.append hdescription).append hrequired).append hchoices).append
    hminimum).append hmaximum).append hdefault

theorem schema_members {members : Entries Value} {fields : Entries Field}
    (h : fieldEntries members = .ok fields) (name description : String) (extra : Bool) :
    schema (.object [
      ("name", .string name),
      ("description", .string description),
      ("properties", .object members),
      ("additional_properties", .boolean extra)])
      = .ok ⟨name, description, fields, extra⟩ := by
  have hfields : fieldMap (.object members) = .ok fields := h
  show (schemaMembers { name := some name, description }
      [("properties", .object members), _]
    >>= fun draft => finishObject "name" draft.schema?) = _
  rw [schemaMembers]
  simp only [SchemaMember.ofName?, schemaMember, hfields]
  rfl

theorem inlineFields_members {members : Entries Value} {fields : Entries Field}
    (h : fieldEntries members = .ok fields) (extra : Bool) :
    inlineFields (.object [
      ("properties", .object members),
      ("additional_properties", .boolean extra)]) = .ok (.inline fields extra) := by
  have hfields : fieldMap (.object members) = .ok fields := h
  rw [inlineFields, inlineMembers]
  simp only [hfields]
  rfl

theorem takes_shape {draft : FieldDraft} {v : Value} {shape : Option Shape}
    (h : shapeOrNull v = .ok shape) :
    Takes draft [("object", v)] { draft with shape } := by
  apply takes_member rfl
  rw [fieldMember, h]
  rfl

theorem takes_items {draft : FieldDraft} {v : Value} {items : Option Items}
    (h : itemsOrNull v = .ok items) : Takes draft [("items", v)] { draft with items } := by
  apply takes_member rfl
  rw [fieldMember, h]
  rfl

-- The recursion of the encoder.
mutual

theorem fieldEntries_encode : ∀ fields : List (String × Field),
    fieldEntries (encodeFields fields)
      = .ok (mapPartsInFields Attributes.withoutNullDefault id fields)
  | [] => rfl
  | (name, f) :: rest => by
    rw [encodeFields, fieldEntries, field_encode f, fieldEntries_encode rest]
    rfl
  termination_by structural fields => fields

theorem field_encode : ∀ f : Field,
    field f.encode = .ok (mapPartsInField Attributes.withoutNullDefault id f)
  | ⟨attributes, shape, items⟩ => by
    have hmembers : fieldMembers {}
        (attributes.encode ++ encodeShape shape ++ encodeItems items) = _ :=
      ((takes_attributes attributes).append (takes_encodeShape _ _ shape)).append
        (takes_encodeItems _ _ _ items)
    rw [Field.encode, field, hmembers]
    rfl
  termination_by structural f => f

theorem takes_encodeShape (kind : Option Kind) (attributes : Attributes) :
    ∀ shape : Option Shape, Takes ⟨kind, attributes, none, none⟩ (encodeShape shape)
      ⟨kind, attributes, mapPartsInShape Attributes.withoutNullDefault id shape, none⟩
  | none => rfl
  | some (.schema ⟨_, _, fields, _⟩) => by
    apply takes_shape
    rw [Shape.encode, Schema.encode, shapeOrNull]
    simp only [schema_members (fieldEntries_encode fields)]
    rfl
  | some (.inline fields _) => by
    apply takes_shape
    rw [Shape.encode, shapeOrNull]
    simp only [inlineFields_members (fieldEntries_encode fields)]
    rfl
  | some (.map _) => takes_shape rfl
  termination_by structural shape => shape

theorem takes_encodeItems (kind : Option Kind) (attributes : Attributes)
    (shape : Option Shape) :
    ∀ items : Option Items, Takes ⟨kind, attributes, shape, none⟩ (encodeItems items)
      ⟨kind, attributes, shape, mapPartsInItems Attributes.withoutNullDefault id items⟩
  | none => rfl
  | some (.schema ⟨_, _, fields, _⟩) => by
    apply takes_items
    rw [Items.encode, Schema.encode, itemsOrNull]
    simp only [schema_members (fieldEntries_encode fields)]
    rfl
  | some (.fragment _) => takes_items rfl
  termination_by structural items => items

end

/-- A stored schema is read without its defaults `null`. -/
theorem schema_encode (s : Schema) : schema s.encode = .ok s.withoutNullDefaults := by
  obtain ⟨name, description, fields, extra⟩ := s
  exact schema_members (fieldEntries_encode fields) name description extra

end Decode

/-! ## Schemas that are read back as they are -/

/-- No default at any level is `null`. -/
def Schema.Storable (s : Schema) : Prop := s.Holds NoNullDefaults fun _ => True

theorem Attributes.withoutNullDefault_eq_self_iff {a : Attributes} :
    a.withoutNullDefault = a ↔ a.default ≠ some .null := by
  obtain ⟨kind, description, required, choices, minimum, maximum, default⟩ := a
  cases default with
  | none => simp [withoutNullDefault]
  | some v => cases v <;> simp [withoutNullDefault, Value.isNull]

namespace Schema

theorem withoutNullDefaults_eq_self_iff {s : Schema} :
    s.withoutNullDefaults = s ↔ s.Storable := by
  have hkept : KeptBy Attributes.withoutNullDefault = NoNullDefaults := by
    funext fields
    simp only [KeptBy, NoNullDefaults, Attributes.withoutNullDefault_eq_self_iff]
  rw [withoutNullDefaults, mapParts_eq_self_iff, hkept, Storable]
  simp only [id_eq]

theorem storable_ofDocument (document : Value) : (ofDocument document).Storable :=
  (Document.settled_ofDocument document).mono (fun _ h e he => (h e he).default)
    fun _ h => h

end Schema

/-- Nothing is asked of a value: whatever is stored, no default is read as `null`. -/
theorem Decode.carries_noNullDefaults :
    Carries (fun _ => True) NoNullDefaults (fun _ => True) where
  members _ _ _ := trivial
  items _ _ _ := trivial
  fields _ _ h := h
  no_fields := nofun
  kept _ _ := trivial

namespace Schema

theorem storable_decode (v : Value) : Returns Storable (decode v) :=
  Decode.carries_noNullDefaults.holds_decode trivial

/-- Storing a schema and reading it again loses nothing just if there is no default
`null`. -/
theorem decode_encode_eq_self_iff {s : Schema} : decode s.encode = .ok s ↔ s.Storable := by
  rw [decode, Decode.schema_encode, Except.ok.injEq, withoutNullDefaults_eq_self_iff]

/-- Storing a schema and reading it again leaves out every default `null` and nothing else.
What was read before, as a document or in its stored form, is read again as it is. -/
theorem decode_encode :
    (∀ s : Schema, decode s.encode = .ok s.withoutNullDefaults)
      ∧ (∀ document, decode (ofDocument document).encode = .ok (ofDocument document))
      ∧ ∀ v, (decode v >>= fun s => decode s.encode) = decode v := by
  refine ⟨Decode.schema_encode, fun document => ?_, fun v => ?_⟩
  · exact decode_encode_eq_self_iff.mpr (storable_ofDocument document)
  · have hread := storable_decode v
    cases hv : decode v with
    | error e => rfl
    | ok s => exact decode_encode_eq_self_iff.mpr (hread.of_ok hv)

end Schema

end StructuredOutput
