import StructuredOutput.Schema.Document
import StructuredOutput.Proofs.Schema.Levels

/-!
# Reading documents, level by level

The recursion that rebuilds a schema walks the keywords of a level one after the other.
What it finds is what a look-up finds: `fieldsOf_eq` and `itemsIn_eq` say so, and
everything else about reading is proved from look-ups. `Carries.holds_ofDocument` takes a
condition from a document to every level of the schema that it describes.
-/

namespace StructuredOutput.Document

open Json (Value)

/-! ## Reading by look-ups -/

theorem fieldsOf_eq (required : List String) (level : Entries Value) :
    fieldsOf required level =
      match Json.object? "properties" level with
      | some definitions => fieldsOfDefinitions required definitions
      | none => [] := by
  induction level with
  | nil => rfl
  | cons e rest ih =>
    obtain ⟨keyword, v⟩ := e
    by_cases h : keyword = "properties"
    · subst h
      cases v <;> rfl
    · have hlookup : Json.object? "properties" ((keyword, v) :: rest)
          = Json.object? "properties" rest := by
        simp [Json.object?, Entries.lookup_cons, Ne.symm h]
      rw [fieldsOf, if_neg h, ih, hlookup]

theorem fieldsOf_of_properties {level definitions : Entries Value}
    (h : level.lookup "properties" = some (.object definitions)) (required : List String) :
    fieldsOf required level = fieldsOfDefinitions required definitions := by
  have hobject : Json.object? "properties" level = some definitions := by
    rw [Json.object?, h]
    rfl
  rw [fieldsOf_eq, hobject]

theorem fieldsOfDefinitions_eq (required : List String) (definitions : Entries Value) :
    fieldsOfDefinitions required definitions
      = definitions.mapValues fun name definition =>
        fieldOf name (required.contains name) definition := by
  induction definitions with
  | nil => rfl
  | cons d rest ih => simp [fieldsOfDefinitions, ih]

theorem itemsIn_eq (name : String) (level : Entries Value) :
    itemsIn name level = (level.lookup "items").map (itemsOf name) := by
  induction level with
  | nil => rfl
  | cons e rest ih =>
    obtain ⟨keyword, v⟩ := e
    by_cases h : keyword = "items"
    · simp [itemsIn, h]
    · simp [itemsIn, Entries.lookup_cons, h, Ne.symm h, ih]

theorem hasProperties_of_lookup {level definitions : Entries Value}
    (h : level.lookup "properties" = some (.object definitions)) :
    hasProperties level := by
  rw [hasProperties, Json.object?, h]
  rfl

theorem hasProperties_of_lookup_none {level : Entries Value}
    (h : level.lookup "properties" = none) : hasProperties level = false := by
  rw [hasProperties, Json.object?, h]
  rfl

/-- The names of the properties of a level, in order. -/
def propertyNames (level : Entries Value) : List String :=
  ((Json.object? "properties" level).getD []).names

theorem propertyNames_eq (level : Entries Value) :
    propertyNames level
      = ((Json.object? "properties" level).map Entries.names).getD [] := by
  rw [propertyNames]
  cases Json.object? "properties" level <;> rfl

theorem propertyNames_of_lookup {level definitions : Entries Value}
    (h : level.lookup "properties" = some (.object definitions)) :
    propertyNames level = definitions.names := by
  rw [propertyNames, Json.object?, h]
  rfl

theorem requiredNames_of_texts {level : Entries Value} {names : List String}
    (h : level.lookup "required" = some (.texts names)) : requiredNames level = names := by
  rw [requiredNames, h]
  simp [Value.texts, List.filterMap_map, Value.string?, Function.comp_def]

theorem requiredNames_of_lookup_none {level : Entries Value}
    (h : level.lookup "required" = none) : requiredNames level = [] := by
  rw [requiredNames, h]

/-! ## Conditions on every level -/

/-- A condition `G` on documents that gives `P` for the fields of each of their
`properties` objects and `R` for the values that are kept as they stand. It passes to the
members of an object. -/
structure Carries (G : Value → Prop) (P : Entries Field → Prop)
    (R : Value → Prop) : Prop where
  member : ∀ {level : Entries Value}, G (.object level) → ∀ m ∈ level, G m.2
  fields : ∀ (required : List String) {definitions : Entries Value},
    G (.object definitions) → P (fieldsOfDefinitions required definitions)
  no_fields : P []
  kept : ∀ {level : Entries Value}, G (.object level) → R (.object level)
  anything : R (.boolean true)
  unknown : R (.object [("type", .string "string")])

/-- What is read off a value, as a field or as items, satisfies the conditions at every
level. -/
def ReadsTo (P : Entries Field → Prop) (R : Value → Prop) (v : Value) : Prop :=
  (∀ name required, FieldHolds P R (fieldOf name required v))
    ∧ ∀ name, ItemsHold P R (some (itemsOf name v))

namespace Carries

variable {G : Value → Prop} {P : Entries Field → Prop} {R : Value → Prop}
    (hG : Carries G P R)

include hG

theorem properties {level definitions : Entries Value} (h : G (.object level))
    (hd : Json.object? "properties" level = some definitions) :
    G (.object definitions) := by
  obtain ⟨v, hv, hobject⟩ := Option.bind_eq_some_iff.mp hd
  rw [← Value.eq_object_of_object? hobject]
  exact hG.member h _ (Entries.mem_of_lookup hv)

theorem fieldsOf_satisfies (required : List String) {level : Entries Value}
    (h : G (.object level)) : P (fieldsOf required level) := by
  rw [fieldsOf_eq]
  split
  · rename_i definitions hd
    exact hG.fields required (hG.properties h hd)
  · exact hG.no_fields

omit hG in
theorem fieldsOf_holds (required : List String) {level : Entries Value}
    (h : ∀ definitions, Json.object? "properties" level = some definitions →
      ∀ d ∈ definitions, ReadsTo P R d.2) : FieldsHold P R (fieldsOf required level) := by
  rw [fieldsOf_eq]
  split
  · rename_i definitions hd
    rw [fieldsOfDefinitions_eq, fieldsHold_iff]
    intro e he
    obtain ⟨d, hmem, rfl⟩ := Entries.mem_mapValues.mp he
    exact (h definitions hd d hmem).1 _ _
  · trivial

section

variable (name : String) {level : Entries Value} (h : G (.object level))
    {fields : Entries Field}
  (hlevel : P fields) (hfields : FieldsHold P R fields)

include h hlevel hfields

theorem shapeAt_holds : ShapeHolds P R (shapeAt name level fields) := by
  unfold shapeAt
  split
  · exact ⟨hlevel, hfields⟩
  · split
    · trivial
    · exact ⟨hG.no_fields, trivial⟩
    · rename_i hv
      exact hG.kept (hG.member h _ (Entries.mem_of_lookup hv))
    · exact hG.anything

theorem itemsAt_holds : ItemsHold P R (some (itemsAt name level fields)) := by
  unfold itemsAt
  split
  · exact ⟨hlevel, hfields⟩
  · exact hG.kept h

end

theorem readsTo (v : Value) (h : G v) : ReadsTo P R v := by
  induction v using Value.levelInduction with
  | leaf v hleaf =>
    cases v with
    | object level => cases hleaf
    | _ => exact ⟨fun _ _ => ⟨trivial, trivial⟩, fun _ => hG.unknown⟩
  | level level ih =>
    have hlevel := hG.fieldsOf_satisfies (requiredNames level) h
    have hfields : FieldsHold P R (fieldsOf (requiredNames level) level) := by
      apply fieldsOf_holds
      intro definitions hd d hmem
      have hdefinition := hG.member (hG.properties h hd) d hmem
      obtain ⟨v, hv, hobject⟩ := Option.bind_eq_some_iff.mp hd
      exact (ih _ (Entries.mem_of_lookup hv)).members definitions hobject d hmem
        hdefinition
    have hitems (name : String) : ItemsHold P R (itemsIn name level) := by
      rw [itemsIn_eq]
      cases hi : level.lookup "items" with
      | none => trivial
      | some v =>
        have hmem := Entries.mem_of_lookup hi
        exact ((ih _ hmem).self (hG.member h _ hmem)).2 name
    -- A shape is read of objects only, and items of arrays only.
    refine ⟨fun name required => ⟨?_, ?_⟩, fun name =>
      hG.itemsAt_holds name h hlevel hfields⟩
    · show ShapeHolds P R (if kindOf level = .object then _ else none)
      split
      · exact hG.shapeAt_holds name h hlevel hfields
      · trivial
    · show ItemsHold P R (if kindOf level = .array then _ else none)
      split
      · exact hitems name
      · trivial

/-- What a document carries holds at every level of the schema that it describes. -/
theorem holds_ofDocument {d : Value} (h : G d) : (Schema.ofDocument d).Holds P R := by
  cases d with
  | object level =>
    refine ⟨hG.fieldsOf_satisfies _ h, fieldsOf_holds _ ?_⟩
    intro definitions hd d hmem
    exact hG.readsTo d.2 (hG.member (hG.properties h hd) d hmem)
  | _ => exact ⟨hG.no_fields, trivial⟩

end Carries

/-- A condition that the fields of every `properties` object satisfy. -/
theorem carries_of_forall {P : Entries Field → Prop}
    (hP : ∀ required definitions, P (fieldsOfDefinitions required definitions)) :
    Carries (fun _ => True) P fun _ => True where
  member _ _ _ := trivial
  fields required definitions _ := hP required definitions
  no_fields := hP [] []
  kept _ := trivial
  anything := trivial
  unknown := trivial

end StructuredOutput.Document
