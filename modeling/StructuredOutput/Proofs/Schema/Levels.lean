import StructuredOutput.Schema.Basic
import StructuredOutput.Proofs.Json.Level
import Mathlib.Data.List.Nodup

/-!
# Levels of a schema

A schema holds fields at many levels: its own, those of nested objects, those of array
items. It also holds hand-authored values: what is said of the values of a map, and
fragments of items. `Schema.Holds P R` says that every level satisfies `P` and every such
value `R`. Invariants of schemas are instances of it: `Schema.Distinct` is the one that the
maps of the program guarantee.
-/

namespace StructuredOutput

open Json (Value)

section

variable (P : Entries Field → Prop) (R : Value → Prop)

mutual

def FieldsHold : List (String × Field) → Prop
  | [] => True
  | (_, f) :: rest => FieldHolds f ∧ FieldsHold rest
  termination_by structural fields => fields

/-- What is nested in the field satisfies the conditions. -/
def FieldHolds : Field → Prop
  | ⟨_, shape, items⟩ => ShapeHolds shape ∧ ItemsHold items
  termination_by structural f => f

def ShapeHolds : Option Shape → Prop
  | none => True
  | some (.schema ⟨_, _, fields, _⟩) => P fields ∧ FieldsHold fields
  | some (.inline fields _) => P fields ∧ FieldsHold fields
  | some (.map values) => R values
  termination_by structural shape => shape

def ItemsHold : Option Items → Prop
  | none => True
  | some (.schema ⟨_, _, fields, _⟩) => P fields ∧ FieldsHold fields
  | some (.fragment fragment) => R fragment
  termination_by structural items => items

end

/-- The conditions hold of the fields of a level and of everything below it. -/
def LevelHolds (fields : Entries Field) : Prop := P fields ∧ FieldsHold P R fields

/-- Every level of the schema satisfies `P`, every hand-authored value `R`. -/
def Schema.Holds (s : Schema) : Prop := P s.fields ∧ FieldsHold P R s.fields

end

theorem fieldsHold_iff {P : Entries Field → Prop} {R : Value → Prop}
    {fields : Entries Field} :
    FieldsHold P R fields ↔ ∀ e ∈ fields, FieldHolds P R e.2 := by
  induction fields with
  | nil => simp [FieldsHold]
  | cons e rest ih =>
    obtain ⟨name, f⟩ := e
    simp [FieldsHold, ih]

/-! ## Weaker conditions -/

section

variable {P P' : Entries Field → Prop} {R R' : Value → Prop}

mutual

theorem FieldsHold.mono (hP : ∀ fields, P fields → P' fields) (hR : ∀ v, R v → R' v) :
    ∀ {fields : List (String × Field)}, FieldsHold P R fields → FieldsHold P' R' fields
  | [], _ => trivial
  | (_, _) :: _, h => ⟨FieldHolds.mono hP hR h.1, FieldsHold.mono hP hR h.2⟩
  termination_by structural fields => fields

theorem FieldHolds.mono (hP : ∀ fields, P fields → P' fields) (hR : ∀ v, R v → R' v) :
    ∀ {f : Field}, FieldHolds P R f → FieldHolds P' R' f
  | ⟨_, _, _⟩, h => ⟨ShapeHolds.mono hP hR h.1, ItemsHold.mono hP hR h.2⟩
  termination_by structural f => f

theorem ShapeHolds.mono (hP : ∀ fields, P fields → P' fields) (hR : ∀ v, R v → R' v) :
    ∀ {shape : Option Shape}, ShapeHolds P R shape → ShapeHolds P' R' shape
  | none, _ => trivial
  | some (.schema ⟨_, _, _, _⟩), h => ⟨hP _ h.1, FieldsHold.mono hP hR h.2⟩
  | some (.inline _ _), h => ⟨hP _ h.1, FieldsHold.mono hP hR h.2⟩
  | some (.map _), h => hR _ h
  termination_by structural shape => shape

theorem ItemsHold.mono (hP : ∀ fields, P fields → P' fields) (hR : ∀ v, R v → R' v) :
    ∀ {items : Option Items}, ItemsHold P R items → ItemsHold P' R' items
  | none, _ => trivial
  | some (.schema ⟨_, _, _, _⟩), h => ⟨hP _ h.1, FieldsHold.mono hP hR h.2⟩
  | some (.fragment _), h => hR _ h
  termination_by structural items => items

end

theorem Schema.Holds.mono (hP : ∀ fields, P fields → P' fields) (hR : ∀ v, R v → R' v)
    {s : Schema} (h : s.Holds P R) : s.Holds P' R' :=
  ⟨hP _ h.1, h.2.mono hP hR⟩

end

/-! ## Distinct names -/

/-- No level of the schema has two fields of one name, and no object in a hand-authored
value two members of one name. -/
def Schema.Distinct (s : Schema) : Prop :=
  s.Holds (fun fields => fields.names.Nodup) Value.Distinct

/-- The same of fields, of what is nested in one field, in a shape and in items. -/
abbrev DistinctFields (fields : Entries Field) : Prop :=
  fields.names.Nodup ∧ FieldsHold (fun fields => fields.names.Nodup) Value.Distinct fields

abbrev DistinctField : Field → Prop :=
  FieldHolds (fun fields => fields.names.Nodup) Value.Distinct

abbrev DistinctShape : Option Shape → Prop :=
  ShapeHolds (fun fields => fields.names.Nodup) Value.Distinct

abbrev DistinctItems : Option Items → Prop :=
  ItemsHold (fun fields => fields.names.Nodup) Value.Distinct

/-- Fields of one name agree on whether they are required. A list of required names can
tell fields apart no further than that. -/
def FlagsByName (fields : Entries Field) : Prop :=
  ∀ e ∈ fields, ∀ d ∈ fields, e.1 = d.1 → e.2.attributes.required = d.2.attributes.required

theorem flagsByName_of_nodup {fields : Entries Field} (h : fields.names.Nodup) :
    FlagsByName fields := by
  intro e he d hd hname
  rw [List.inj_on_of_nodup_map h he hd hname]

/-- The required names of a level say of each of its fields whether it is required. -/
theorem FlagsByName.contains_namesWhere {fields : Entries Field} (h : FlagsByName fields)
    {e : String × Field} (he : e ∈ fields) :
    (Schema.namesWhere (·.required) fields).contains e.1 = e.2.attributes.required := by
  rw [Bool.eq_iff_iff, List.contains_iff_mem, Schema.namesWhere, Entries.names,
    List.mem_map]
  constructor
  · rintro ⟨d, hd, hname⟩
    obtain ⟨hmem, hrequired⟩ := List.mem_filter.mp hd
    rw [h e he d hmem hname.symm]
    exact hrequired
  · intro hrequired
    exact ⟨e, List.mem_filter.mpr ⟨he, hrequired⟩, rfl⟩

/-- Names are listed by attributes, so that fields may change in everything else. -/
theorem Schema.namesWhere_mapValues {test : Attributes → Bool} {f : String → Field → Field}
    (h : ∀ name field, test (f name field).attributes = test field.attributes)
    (fields : Entries Field) :
    namesWhere test (fields.mapValues f) = namesWhere test fields := by
  unfold namesWhere
  induction fields with
  | nil => rfl
  | cons e rest ih =>
    rw [Entries.mapValues_cons, List.filter_cons, List.filter_cons, h]
    split
    · rw [Entries.names_cons, Entries.names_cons, ih]
    · exact ih

/-- Every level tells its fields apart by name, as far as being required goes. -/
def Schema.Coherent (s : Schema) : Prop := s.Holds FlagsByName fun _ => True

theorem Schema.Distinct.coherent {s : Schema} (h : s.Distinct) : s.Coherent :=
  h.mono (fun _ => flagsByName_of_nodup) fun _ _ => trivial

end StructuredOutput
