import StructuredOutput.Proofs.Json.Distinct
import StructuredOutput.Proofs.Schema.Levels
import StructuredOutput.Schema.Decode

/-!
# Reading stored schemas, level by level

What a value satisfies is passed on to every level of the schema that it stores. `Carries`
says what is asked of the conditions on either side, and `Carries.holds_decode`, the main
statement, takes them through the recursion of the decoder. Whatever the conditions, no
field is read with `null` for its default, since an optional member that is `null` counts
as missing.
-/

namespace StructuredOutput

open Json (Value)

/-- No field of a level has `null` for its default. -/
def NoNullDefaults (fields : Entries Field) : Prop :=
  ∀ e ∈ fields, e.2.attributes.default ≠ some .null

namespace Decode

/-- A condition `G` on values that gives `P` for the fields that an object stores, and `R`
for values that are kept as they stand. It passes to what stands in an object or in a
list. -/
structure Carries (G : Value → Prop) (P : Entries Field → Prop)
    (R : Value → Prop) : Prop where
  members : ∀ {members : Entries Value}, G (.object members) → ∀ m ∈ members, G m.2
  items : ∀ {items : List Value}, G (.array items) → ∀ v ∈ items, G v
  fields : ∀ {members : Entries Value} {fields : Entries Field}, G (.object members) →
    fields.names = members.names → NoNullDefaults fields → P fields
  no_fields : P []
  kept : ∀ v, G v → R v

section

variable (P : Entries Field → Prop) (R : Value → Prop)

/-- What has been read of a field so far has no default `null`, and the conditions hold in
it. -/
structure DraftHolds (draft : FieldDraft) : Prop where
  default : draft.attributes.default ≠ some .null
  shape : ShapeHolds P R draft.shape
  items : ItemsHold P R draft.items

/-- A field without a default `null` in which the conditions hold. -/
def ReadFieldHolds (f : Field) : Prop :=
  f.attributes.default ≠ some .null ∧ FieldHolds P R f

end

variable {P : Entries Field → Prop} {R : Value → Prop}

/-! ## Members -/

theorem nullable_returns {α : Type} {p : α → Prop} {read : Value → Except Mismatch α}
    {v : Value} (h : v ≠ .null → Returns p (read v)) :
    Returns (fun o => ∀ a, o = some a → p a) (nullable read v) := by
  have hsome (hv : v ≠ .null) : Returns (fun o => ∀ a, o = some a → p a)
      (some <$> read v) :=
    (h hv).map fun a ha b hb => Option.some.inj hb ▸ ha
  cases v with
  | null => exact fun _ h => nomatch h
  | _ => exact hsome nofun

theorem schemaMember_returns {draft : SchemaDraft} (h : LevelHolds P R draft.fields)
    (member : SchemaMember) (v : Value) {fieldMap : Unit → Except Mismatch (Entries Field)}
    (hfields : Returns (LevelHolds P R) (fieldMap ())) :
    Returns (fun d => LevelHolds P R d.fields) (schemaMember draft member v fieldMap) := by
  cases member with
  | fields => exact hfields.bind fun fields hf => hf
  | _ => exact (returns_true _).bind fun _ _ => h

theorem fieldMember_returns {draft : FieldDraft} (h : DraftHolds P R draft)
    (member : FieldMember) (v : Value) {shape : Unit → Except Mismatch (Option Shape)}
    {items : Unit → Except Mismatch (Option Items)}
    (hshape : Returns (ShapeHolds P R) (shape ()))
    (hitems : Returns (ItemsHold P R) (items ())) :
    Returns (DraftHolds P R) (fieldMember draft member v shape items) := by
  cases member with
  | default =>
    have hdefault : Returns (fun o => ∀ w, o = some w → w ≠ Value.null) (nullable .ok v) :=
      nullable_returns fun hv => hv
    exact hdefault.bind fun d hd => ⟨fun hnull => hd _ hnull rfl, h.shape, h.items⟩
  | shape => exact hshape.bind fun shape hs => ⟨h.default, hs, h.items⟩
  | items => exact hitems.bind fun items hi => ⟨h.default, h.shape, hi⟩
  | _ => exact (returns_true _).bind fun _ _ => ⟨h.default, h.shape, h.items⟩

theorem finishList_returns {α : Type} {p : α → Prop} {result : Option α}
    (h : ∀ a, result = some a → p a) (given members : Nat) (expected : String) :
    Returns p (finishList given members expected result) := by
  cases result with
  | none => trivial
  | some a =>
    rw [finishList]
    split
    · trivial
    · exact h a rfl

theorem finishObject_returns {α : Type} {p : α → Prop} {result : Option α}
    (h : ∀ a, result = some a → p a) (needed : String) :
    Returns p (finishObject needed result) := by
  cases result with
  | none => trivial
  | some a => exact h a rfl

/-- A finished schema has the fields of its draft. -/
theorem schema?_holds {draft : SchemaDraft} (h : LevelHolds P R draft.fields) (s : Schema)
    (hs : draft.schema? = some s) : s.Holds P R := by
  obtain ⟨name, -, rfl⟩ := Option.map_eq_some_iff.mp hs
  exact h

theorem field?_holds {draft : FieldDraft} (h : DraftHolds P R draft) (f : Field)
    (hf : draft.field? = some f) : ReadFieldHolds P R f := by
  obtain ⟨kind, -, rfl⟩ := Option.map_eq_some_iff.mp hf
  exact ⟨h.default, h.shape, h.items⟩

/-! ## Schemas and fields -/

namespace Carries

variable {G : Value → Prop}

-- The recursion of the decoder. Each draft keeps the conditions on what it has taken in.
mutual

theorem holds_schema (hG : Carries G P R) :
    ∀ v : Value, G v → Returns (Schema.Holds P R) (schema v)
  | .object members, h => by
    rw [schema]
    apply (hG.holds_schemaMembers members (hG.members h) {} ⟨hG.no_fields, trivial⟩).bind
    intro draft hd
    exact finishObject_returns (schema?_holds hd) _
  | .array items, h => by
    rw [schema]
    apply (hG.holds_schemaItems items (hG.items h) {} _ ⟨hG.no_fields, trivial⟩).bind
    intro draft hd
    exact finishList_returns (schema?_holds hd) _ _ _
  | .null, _ => trivial
  | .boolean _, _ => trivial
  | .number _, _ => trivial
  | .string _, _ => trivial
  termination_by structural v => v

theorem holds_schemaMembers (hG : Carries G P R) :
    ∀ members : List (String × Value), (∀ m ∈ members, G m.2) →
    ∀ draft : SchemaDraft, LevelHolds P R draft.fields →
    Returns (fun d => LevelHolds P R d.fields) (schemaMembers draft members)
  | [], _, draft, hdraft => hdraft
  | (name, v) :: rest, h, draft, hdraft => by
    have ⟨hv, hrest⟩ := List.forall_mem_cons.mp h
    have hfields := hG.holds_fieldMap v hv
    rw [schemaMembers]
    split
    · apply (schemaMember_returns hdraft _ v hfields).bind
      intro d hd
      exact hG.holds_schemaMembers rest hrest d hd
    · exact hG.holds_schemaMembers rest hrest draft hdraft
  termination_by structural members => members

theorem holds_schemaItems (hG : Carries G P R) : ∀ items : List Value, (∀ v ∈ items, G v) →
    ∀ (draft : SchemaDraft) (order : List SchemaMember), LevelHolds P R draft.fields →
    Returns (fun d => LevelHolds P R d.fields) (schemaItems draft order items)
  | [], _, draft, order, hdraft => hdraft
  | v :: rest, h, draft, order, hdraft => by
    have ⟨hv, hrest⟩ := List.forall_mem_cons.mp h
    have hfields := hG.holds_fieldMap v hv
    cases order with
    | nil => exact hdraft
    | cons member order =>
      rw [schemaItems]
      apply (schemaMember_returns hdraft member v hfields).bind
      intro d hd
      exact hG.holds_schemaItems rest hrest d order hd
  termination_by structural items => items

theorem holds_fieldMap (hG : Carries G P R) :
    ∀ v : Value, G v → Returns (LevelHolds P R) (fieldMap v)
  | .object members, h => by
    rw [fieldMap]
    apply (hG.holds_fieldEntries members (hG.members h)).imp
    intro fields ⟨hnames, hread⟩
    refine ⟨hG.fields h hnames fun e he => (hread e he).1, ?_⟩
    exact fieldsHold_iff.mpr fun e he => (hread e he).2
  | .null, _ => trivial
  | .boolean _, _ => trivial
  | .number _, _ => trivial
  | .string _, _ => trivial
  | .array _, _ => trivial
  termination_by structural v => v

theorem holds_fieldEntries (hG : Carries G P R) :
    ∀ members : List (String × Value), (∀ m ∈ members, G m.2) →
    Returns (fun fields : Entries Field => fields.names = Entries.names members
      ∧ ∀ e ∈ fields, ReadFieldHolds P R e.2) (fieldEntries members)
  | [], _ => ⟨rfl, nofun⟩
  | (name, v) :: rest, h => by
    have ⟨hv, hrest⟩ := List.forall_mem_cons.mp h
    rw [fieldEntries]
    apply (hG.holds_field v hv).bind
    intro first hfirst
    apply (hG.holds_fieldEntries rest hrest).bind
    intro others hothers
    exact ⟨congrArg (name :: ·) hothers.1, List.forall_mem_cons.mpr ⟨hfirst, hothers.2⟩⟩
  termination_by structural members => members

theorem holds_field (hG : Carries G P R) :
    ∀ v : Value, G v → Returns (ReadFieldHolds P R) (field v)
  | .object members, h => by
    rw [field]
    apply (hG.holds_fieldMembers members (hG.members h) {} ⟨nofun, trivial, trivial⟩).bind
    intro draft hd
    exact finishObject_returns (field?_holds hd) _
  | .array items, h => by
    rw [field]
    apply (hG.holds_fieldItems items (hG.items h) {} _ ⟨nofun, trivial, trivial⟩).bind
    intro draft hd
    exact finishList_returns (field?_holds hd) _ _ _
  | .null, _ => trivial
  | .boolean _, _ => trivial
  | .number _, _ => trivial
  | .string _, _ => trivial
  termination_by structural v => v

theorem holds_fieldMembers (hG : Carries G P R) :
    ∀ members : List (String × Value), (∀ m ∈ members, G m.2) →
    ∀ draft : FieldDraft, DraftHolds P R draft →
    Returns (DraftHolds P R) (fieldMembers draft members)
  | [], _, draft, hdraft => hdraft
  | (name, v) :: rest, h, draft, hdraft => by
    have ⟨hv, hrest⟩ := List.forall_mem_cons.mp h
    have hshape := hG.holds_shapeOrNull v hv
    have hitems := hG.holds_itemsOrNull v hv
    rw [fieldMembers]
    split
    · apply (fieldMember_returns hdraft _ v hshape hitems).bind
      intro d hd
      exact hG.holds_fieldMembers rest hrest d hd
    · exact hG.holds_fieldMembers rest hrest draft hdraft
  termination_by structural members => members

theorem holds_fieldItems (hG : Carries G P R) : ∀ items : List Value, (∀ v ∈ items, G v) →
    ∀ (draft : FieldDraft) (order : List FieldMember), DraftHolds P R draft →
    Returns (DraftHolds P R) (fieldItems draft order items)
  | [], _, draft, order, hdraft => hdraft
  | v :: rest, h, draft, order, hdraft => by
    have ⟨hv, hrest⟩ := List.forall_mem_cons.mp h
    have hshape := hG.holds_shapeOrNull v hv
    have hitems := hG.holds_itemsOrNull v hv
    cases order with
    | nil => exact hdraft
    | cons member order =>
      rw [fieldItems]
      apply (fieldMember_returns hdraft member v hshape hitems).bind
      intro d hd
      exact hG.holds_fieldItems rest hrest d order hd
  termination_by structural items => items

theorem holds_shapeOrNull (hG : Carries G P R) :
    ∀ v : Value, G v → Returns (ShapeHolds P R) (shapeOrNull v)
  | .null, _ => trivial
  | .object [(name, content)], h => by
    have hcontent : G content := hG.members h _ List.mem_cons_self
    have hschema := hG.holds_schema content hcontent
    have hinline := hG.holds_inlineFields content hcontent
    unfold shapeOrNull
    split
    · exact hschema.bind fun ⟨_, _, _, _⟩ hs => hs
    · exact hinline.bind fun shape hshape => hshape
    · exact hG.kept content hcontent
    · trivial
  | .object [], _ => trivial
  | .object (_ :: _ :: _), _ => trivial
  | .string name, _ => by
    unfold shapeOrNull
    split <;> trivial
  | .boolean _, _ => trivial
  | .number _, _ => trivial
  | .array _, _ => trivial
  termination_by structural v => v

theorem holds_inlineFields (hG : Carries G P R) : ∀ v : Value, G v →
    Returns (fun shape => ShapeHolds P R (some shape)) (inlineFields v)
  | .object members, h => by
    rw [inlineFields]
    apply (hG.holds_inlineMembers members (hG.members h) {} nofun).bind
    intro draft hd
    apply finishObject_returns
    intro shape hshape
    obtain ⟨fields, hfields, rfl⟩ := Option.map_eq_some_iff.mp hshape
    exact hd fields hfields
  | .null, _ => trivial
  | .boolean _, _ => trivial
  | .number _, _ => trivial
  | .string _, _ => trivial
  | .array _, _ => trivial
  termination_by structural v => v

theorem holds_inlineMembers (hG : Carries G P R) :
    ∀ members : List (String × Value), (∀ m ∈ members, G m.2) →
    ∀ draft : InlineDraft, (∀ fields, draft.fields = some fields → LevelHolds P R fields) →
    Returns (fun d => ∀ fields, d.fields = some fields → LevelHolds P R fields)
      (inlineMembers draft members)
  | [], _, draft, hdraft => hdraft
  | (name, v) :: rest, h, draft, hdraft => by
    have ⟨hv, hrest⟩ := List.forall_mem_cons.mp h
    have hfields := hG.holds_fieldMap v hv
    unfold inlineMembers
    split
    · apply hfields.bind
      intro fields hf
      apply hG.holds_inlineMembers rest hrest
      intro fields' hfields'
      cases hfields'
      exact hf
    · apply (returns_true _).bind
      intro extra _
      exact hG.holds_inlineMembers rest hrest _ hdraft
    · exact hG.holds_inlineMembers rest hrest draft hdraft
  termination_by structural members => members

theorem holds_itemsOrNull (hG : Carries G P R) :
    ∀ v : Value, G v → Returns (ItemsHold P R) (itemsOrNull v)
  | .null, _ => trivial
  | .object [(name, content)], h => by
    have hcontent : G content := hG.members h _ List.mem_cons_self
    have hschema := hG.holds_schema content hcontent
    unfold itemsOrNull
    split
    · exact hschema.bind fun ⟨_, _, _, _⟩ hs => hs
    · exact hG.kept content hcontent
    · trivial
  | .object [], _ => trivial
  | .object (_ :: _ :: _), _ => trivial
  | .string name, _ => by
    unfold itemsOrNull
    split <;> trivial
  | .boolean _, _ => trivial
  | .number _, _ => trivial
  | .array _, _ => trivial
  termination_by structural v => v

end

/-- What a stored schema carries holds at every level of the schema that is read from
it. -/
theorem holds_decode (hG : Carries G P R) {v : Value} (h : G v) :
    Returns (Schema.Holds P R) (Schema.decode v) :=
  hG.holds_schema v h

end Carries

end Decode

end StructuredOutput
