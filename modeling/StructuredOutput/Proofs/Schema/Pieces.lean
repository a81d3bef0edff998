import StructuredOutput.Proofs.Json.Address
import StructuredOutput.Proofs.Schema.Content

/-!
# Pieces of a schema

A schema is put into a document piece by piece. A piece is a declared object, at any depth,
or a hand-authored fragment; `Schema.Places` says at which address of the document it goes.
The main statements are that in every dialect the piece is written there
(`Provider.piece_written`), and where a declared object says that it requires nothing
(`Provider.empty_required_iff`).
-/

namespace StructuredOutput

open Json (Value)

/-! ## Pieces and their addresses -/

/-- A part of a schema that has a place of its own in a document. -/
inductive Piece where
  | object (place : Place) (fields : Entries Field)
  | fragment (fragment : Value)

/-- The piece that a field of that content holds, with its address in the definition. -/
def Content.piece? : Content → Option (Json.Address × Piece)
  | object extra fields => some ([], .object (.nested extra) fields)
  | map values => some ([.member "additionalProperties"], .fragment values)
  | schemaItems fields => some ([.member "items"], .object .standalone fields)
  | fragmentItems fragment => some ([.member "items"], .fragment fragment)
  | nothing => none

/-- The pieces of a schema, with their addresses in its documents. -/
inductive Schema.Places (s : Schema) : Json.Address → Piece → Prop
  | document : s.Places [] (.object .standalone s.fields)
  | field {address below : Json.Address} {place : Place} {fields : Entries Field}
    {name : String} {f : Field} {piece : Piece}
    (above : s.Places address (.object place fields)) (hf : (name, f) ∈ fields)
    (hpiece : f.content.piece? = some (below, piece)) :
    s.Places (address ++ [.member "properties", .member name] ++ below) piece

/-- Names are distinct in the piece, and in everything below it. -/
def Piece.Distinct : Piece → Prop
  | object _ fields => DistinctFields fields
  | fragment _ => True

theorem Content.distinct_piece {content : Content} {below : Json.Address} {piece : Piece}
    (h : DistinctFields content.fields) (hpiece : content.piece? = some (below, piece)) :
    piece.Distinct := by
  cases content with
  | object extra fields =>
    cases hpiece
    exact h
  | schemaItems fields =>
    cases hpiece
    exact h
  | map values =>
    cases hpiece
    trivial
  | fragmentItems fragment =>
    cases hpiece
    trivial
  | nothing => cases hpiece

theorem Schema.Places.distinct {s : Schema} (hs : s.Distinct) {address : Json.Address}
    {piece : Piece} (h : s.Places address piece) : piece.Distinct := by
  induction h with
  | document => exact hs
  | field _ hf hpiece ih =>
    have hfield := fieldsHold_iff.mp ih.2 _ hf
    exact Content.distinct_piece (Field.distinct_content hfield) hpiece

/-! ## Pieces as they are written -/

/-- The value is what the dialect writes for the piece. -/
def Rules.WritesAs (r : Rules) : Piece → Value → Prop
  | .object place fields, v => ∃ level, v = .object level ∧ r.SaysObject place fields level
  | .fragment fragment, v => v = r.finishedFragment fragment

namespace Rules

variable {r : Rules} {level : Entries Value}

/-- The definition of a declared field stands at its name. -/
theorem SaysObject.at?_definition {place : Place} {fields : Entries Field}
    (h : r.SaysObject place fields level) (hdistinct : fields.names.Nodup) {name : String}
    {f : Field} (hf : (name, f) ∈ fields) :
    (Value.object level).at? [.member "properties", .member name]
      = some (r.definition f) := by
  have hlookup := Entries.lookup_of_mem hdistinct hf
  rw [Value.at?_cons, Json.Edge.follow, h.properties, Option.bind_some, Value.at?_member,
    Entries.lookup_mapValues, hlookup]
  rfl

/-- The definition of a field holds the piece of the field. -/
theorem SaysContent.writes {content : Content} {below : Json.Address} {piece : Piece}
    (h : r.SaysContent content level) (hpiece : content.piece? = some (below, piece)) :
    ∃ v, (Value.object level).at? below = some v ∧ r.WritesAs piece v := by
  cases content with
  | object extra fields =>
    cases hpiece
    exact ⟨_, rfl, level, rfl, h⟩
  | map values =>
    cases hpiece
    refine ⟨_, ?_, rfl⟩
    rw [Value.at?_member]
    exact GoesOnUnder.lookup h (by decide)
  | schemaItems fields =>
    cases hpiece
    obtain ⟨item, hitem, honly⟩ := h
    refine ⟨_, ?_, item, rfl, hitem⟩
    rw [Value.at?_member]
    exact GoesOnUnder.lookup honly (by decide)
  | fragmentItems fragment =>
    cases hpiece
    refine ⟨_, ?_, rfl⟩
    rw [Value.at?_member]
    exact GoesOnUnder.lookup h (by decide)
  | nothing => cases hpiece

end Rules

/-- Every piece of a schema is written at its address. -/
theorem Provider.piece_written (p : Provider) {s : Schema} (hs : s.Distinct)
    {address : Json.Address} {piece : Piece} (h : s.Places address piece) :
    ∃ v, (p.compile s).at? address = some v ∧ p.rules.WritesAs piece v := by
  induction h with
  | document =>
    obtain ⟨level, hlevel, hsaid⟩ := p.compile_saysObject s
    exact ⟨p.compile s, rfl, level, hlevel, hsaid⟩
  | field above hf hpiece ih =>
    obtain ⟨_, hv, level, rfl, hsaid⟩ := ih
    obtain ⟨definition, hdefinition, hcontent⟩ := p.definition_saysContent _
    obtain ⟨w, hw, hwrites⟩ := hcontent.writes hpiece
    have hdistinct : DistinctFields _ := above.distinct hs
    have hat := hsaid.at?_definition hdistinct.1 hf
    refine ⟨w, ?_, hwrites⟩
    rw [Value.at?_append, Value.at?_append, hv, Option.bind_some, hat, Option.bind_some,
      hdefinition, hw]

/-! ## Requiring nothing -/

theorem Place.required_eq_empty_iff {place : Place} {names : List String} :
    place.required names = some (.array []) ↔ place = .standalone ∧ names = [] := by
  cases place with
  | standalone => simp [required, Value.texts]
  | nested extra => cases names <;> simp [required, Value.texts]

theorem Schema.namesWhere_eq_nil_iff {test : Attributes → Bool} {fields : Entries Field} :
    namesWhere test fields = [] ↔ ∀ e ∈ fields, test e.2.attributes = false := by
  rw [namesWhere, Entries.names, List.map_eq_nil_iff, List.filter_eq_nil_iff]
  simp only [Bool.not_eq_true]

/-- Every declared object lists the names that it requires, unless it is a field that
requires none. So an empty list stands where a document or the items of an array require
nothing, and nowhere else. -/
theorem Provider.empty_required_iff (p : Provider) {s : Schema} (hs : s.Distinct)
    {address : Json.Address} {place : Place} {fields : Entries Field}
    (h : s.Places address (.object place fields)) :
    ∃ level, (p.compile s).at? address = some (.object level)
      ∧ level.lookup "required" = place.required (Schema.namesWhere p.rules.demands fields)
      ∧ (level.lookup "required" = some (.array []) ↔
        place = .standalone ∧ ∀ e ∈ fields, p.rules.demands e.2.attributes = false) := by
  obtain ⟨_, hat, level, rfl, hsaid⟩ := p.piece_written hs h
  refine ⟨level, hat, hsaid.required, ?_⟩
  rw [hsaid.required, Place.required_eq_empty_iff, Schema.namesWhere_eq_nil_iff]

/-- An array whose items are objects with one optional field. -/
def journal : Schema where
  name := "Journal"
  description := ""
  fields := [("entries", {
    attributes := { kind := .array }
    shape := none
    items := some (.schema {
      name := "Entry"
      description := ""
      fields := [("note", {
        attributes := { kind := .string, required := false }
        shape := none
        items := none })]
      allowsExtra := false }) })]
  allowsExtra := false

theorem distinct_journal : journal.Distinct := by
  simp [journal, Schema.Distinct, Schema.Holds, FieldsHold, FieldHolds,
    ShapeHolds, ItemsHold]

theorem places_journal : ∃ fields : Entries Field,
    journal.Places [.member "properties", .member "entries", .member "items"]
      (.object .standalone fields)
    ∧ ∀ e ∈ fields, e.2.attributes.required = false := by
  refine ⟨_, .field .document (List.mem_singleton.mpr rfl) rfl, ?_⟩
  intro e he
  rw [List.mem_singleton.mp he]

/-- The items of the array require nothing, and say so. -/
theorem empty_required_journal : ∃ level,
    (Provider.gemini.compile journal).at?
    [.member "properties", .member "entries", .member "items"]
      = some (.object level)
    ∧ level.lookup "required" = some (.array []) := by
  obtain ⟨fields, hplaces, hoptional⟩ := places_journal
  obtain ⟨level, hat, -, hempty⟩ :=
    Provider.gemini.empty_required_iff distinct_journal hplaces
  exact ⟨level, hat, hempty.mpr ⟨rfl, hoptional⟩⟩

/-- An empty list of required names does occur below the document. -/
theorem not_forall_required_nonempty : ¬ ∀ (p : Provider) (s : Schema), s.Distinct →
    ∀ (address : Json.Address) (place : Place) (fields : Entries Field),
      s.Places address (.object place fields) → address ≠ [] →
    ∀ level, (p.compile s).at? address = some (.object level) →
      level.lookup "required" ≠ some (.array []) := by
  intro h
  obtain ⟨fields, hplaces, -⟩ := places_journal
  exact h .anthropic journal distinct_journal _ _ fields hplaces (by decide) _ rfl rfl

end StructuredOutput
