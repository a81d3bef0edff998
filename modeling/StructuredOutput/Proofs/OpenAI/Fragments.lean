import StructuredOutput.Proofs.OpenAI.Reach

/-!
# Fragments in strict mode

What becomes of hand-authored fragments in a document of the dialect. The main statements
are which of their objects require all of their properties (`requiresAll_iff`), and that
the only bounds of a document are those that a fragment has where the cleaning pass does
not come (`bounds_of_compile`).
-/

namespace StructuredOutput.OpenAI

open Json (Value Walk)

/-! ## Objects of fragments -/

/-- The level requires all of its properties and forbids others. -/
structure RequiresAll (level : Entries Value) : Prop where
  required : level.lookup "required" = some (.texts (Document.propertyNames level))
  closed : level.lookup "additionalProperties" = some (.boolean false)

theorem propertyNames_levelWithoutBounds (level : Entries Value) :
    Document.propertyNames (levelWithoutBounds level) = Document.propertyNames level := by
  have hnames := transparent_levelWithoutBounds.propertyNames level
  rw [Document.propertyNames_eq, Document.propertyNames_eq, hnames]

theorem hasProperties_levelWithoutBounds (level : Entries Value) :
    Document.hasProperties (levelWithoutBounds level) = Document.hasProperties level := by
  have hsome := congrArg Option.isSome (transparent_levelWithoutBounds.propertyNames level)
  rwa [Option.isSome_map, Option.isSome_map] at hsome

/-- The cleaning pass does not change what a level requires. -/
theorem requiresAll_levelWithoutBounds {level : Entries Value} :
    RequiresAll (levelWithoutBounds level) ↔ RequiresAll level := by
  have hnames := propertyNames_levelWithoutBounds level
  have hrequired : (levelWithoutBounds level).lookup "required"
      = level.lookup "required" :=
    lookup_levelWithoutBounds_of_nowhere rfl rfl level
  have hclosed : (levelWithoutBounds level).lookup "additionalProperties"
      = some (.boolean false)
      ↔ level.lookup "additionalProperties" = some (.boolean false) := by
    rw [lookup_levelWithoutBounds rfl, Option.map_eq_some_iff]
    constructor
    · rintro ⟨v, hv, hclean⟩
      cases v with
      | boolean allowed => rwa [← hclean]
      | _ => cases hclean
    · intro h
      exact ⟨_, h, rfl⟩
  constructor
  · intro h
    exact ⟨hrequired ▸ hnames ▸ h.required, hclosed.mp h.closed⟩
  · intro h
    exact ⟨hrequired.trans (hnames ▸ h.required), hclosed.mpr h.closed⟩

theorem requiresAll_tighten {level : Entries Value} (hobject : describesObject level)
    (hproperties : Document.hasProperties level) : RequiresAll (tighten level) := by
  obtain ⟨properties, hp⟩ := Option.isSome_iff_exists.mp hproperties
  have hnames : Document.propertyNames (tighten level) = properties.names := by
    rw [Document.propertyNames, properties_tighten, hp]
    rfl
  have htighten := tighten_of_properties hobject hp
  constructor
  · rw [hnames, htighten, Entries.lookup_insert_of_ne (by decide),
      Entries.lookup_insert_self]
  · rw [htighten, Entries.lookup_insert_self]

/-- An object to which the strict pass comes requires all of its properties. -/
theorem Tightens.requiresAll {fragment v : Value} {address : Json.Address}
    (h : Tightens fragment address v) {level : Entries Value}
    (hlevel : (strict fragment).at? address = some (.object level))
    (hobject : describesObject level) (hproperties : Document.hasProperties level) :
    RequiresAll level := by
  have hstrict := h.at?.2.symm.trans hlevel
  cases v with
  | object source =>
    rw [strict_object] at hstrict
    cases hstrict
    rw [describesObject_tighten] at hobject
    rw [Document.hasProperties, properties_tighten] at hproperties
    exact requiresAll_tighten hobject hproperties
  | _ => cases hstrict

/-- Of the objects of a fragment that the cleaning pass reaches, those require all of their
properties to which the strict pass comes, and those that did so before. -/
theorem requiresAll_iff {s : Schema} (hs : s.Distinct) {place : Json.Address}
    {fragment : Value} (h : s.Places place (.fragment fragment)) {address : Json.Address}
    (hreach : cleaning.reaches address) {level : Entries Value}
    (hlevel : (Provider.openAI.compile s).at? (place ++ address) = some (.object level))
    (hobject : describesObject level) (hproperties : Document.hasProperties level) :
    RequiresAll level ↔ (∃ v, Tightens fragment address v)
      ∨ ∃ source, fragment.at? address = some (.object source) ∧ RequiresAll source := by
  obtain ⟨_, hplace, rfl⟩ := Provider.openAI.piece_written hs h
  rw [Value.at?_append, hplace] at hlevel
  obtain ⟨strictLevel, hstrict, rfl⟩ := at?_of_reaches hreach hlevel
  rw [transparent_levelWithoutBounds.describesObject] at hobject
  rw [hasProperties_levelWithoutBounds] at hproperties
  have hcases := tightens_or_same (subschema_of_reaches hreach) hstrict
  rw [requiresAll_levelWithoutBounds]
  constructor
  · intro hall
    rcases hcases with htightens | hsame
    · exact .inl htightens
    · exact .inr ⟨strictLevel, hsame, hall⟩
  · rintro (⟨v, htightens⟩ | ⟨source, hsource, hall⟩)
    · exact htightens.requiresAll hstrict hobject hproperties
    · rcases hcases with ⟨v, htightens⟩ | hsame
      · exact htightens.requiresAll hstrict hobject hproperties
      · cases hsource.symm.trans hsame
        exact hall

/-- An array whose items are given as an object with one property, an object in one of
several branches. -/
def ballots : Schema where
  name := "Ballots"
  description := ""
  fields := [("ballots", {
    attributes := { kind := .array }
    shape := none
    items := some (.fragment (.object [
      ("type", .string "object"),
      ("properties", .object [
        ("choice", .object [
          ("anyOf", .array [.object [
            ("type", .string "object"),
            ("properties", .object
              [("name", .object [("type", .string "string")])])]])])])])) })]
  allowsExtra := false

theorem distinct_ballots : ballots.Distinct := by
  simp [ballots, Schema.Distinct, Schema.Holds, FieldsHold, FieldHolds, ShapeHolds,
    ItemsHold, Value.Distinct, Value.DistinctMembers, Value.DistinctItems]

theorem places_ballots : ∃ fragment, ballots.Places
    [.member "properties", .member "ballots", .member "items"] (.fragment fragment) :=
  ⟨_, .field .document (List.mem_singleton.mpr rfl) rfl⟩

/-- The items of the array require their property. -/
theorem requiresAll_ballots : ∃ level,
    (Provider.openAI.compile ballots).at?
      [.member "properties", .member "ballots", .member "items"] = some (.object level)
    ∧ RequiresAll level := by
  obtain ⟨fragment, hplaces⟩ := places_ballots
  have hreach : cleaning.reaches [] := rfl
  refine ⟨_, rfl, ?_⟩
  exact (requiresAll_iff distinct_ballots hplaces hreach rfl rfl rfl).mpr (.inl ⟨_, .self⟩)

/-- In a branch there are objects that do not, though the cleaning pass has been there. -/
theorem not_forall_requiresAll : ¬ ∀ s : Schema, s.Distinct →
    ∀ (place : Json.Address) (fragment : Value), s.Places place (.fragment fragment) →
    ∀ address : Json.Address, cleaning.reaches address →
    ∀ level, (Provider.openAI.compile s).at? (place ++ address) = some (.object level) →
      describesObject level → Document.hasProperties level → RequiresAll level := by
  intro h
  obtain ⟨fragment, hplaces⟩ := places_ballots
  have hall := h ballots distinct_ballots _ fragment hplaces
    [.member "properties", .member "choice", .member "anyOf", .item 0] rfl _ rfl rfl rfl
  have hopen : none = some (Value.boolean false) := hall.closed
  cases hopen

/-! ## Bounds of a document -/

/-- Whether the level has a numeric bound. -/
def hasBound (level : Entries Value) : Bool := level.any fun e => isBound e.1

theorem hasBound_levelWithoutBounds (level : Entries Value) :
    hasBound (levelWithoutBounds level) = false := by
  rw [hasBound, List.any_eq_false, levelWithoutBounds_eq]
  intro e he
  obtain ⟨d, hd, rfl⟩ := Entries.mem_mapValues.mp he
  have hkept := (Entries.mem_keepNames.mp hd).2
  simpa using hkept

theorem reaches_of_piece? {content : Content} {below : Json.Address} {piece : Piece}
    (h : content.piece? = some (below, piece)) : cleaning.reaches below := by
  cases content with
  | nothing => cases h
  | _ =>
    cases h
    rfl

/-- The cleaning pass comes to every piece of the schema. -/
theorem reaches_of_places {s : Schema} {address : Json.Address} {piece : Piece}
    (h : s.Places address piece) : cleaning.reaches address := by
  induction h with
  | document => rfl
  | field _ _ hpiece ih =>
    rw [List.append_assoc, Walk.reaches_append ih]
    exact (Walk.reaches_of_members rfl _ _).trans (reaches_of_piece? hpiece)

/-- A schema of a finished fragment to which the cleaning pass does not come is as its
author wrote it, since the strict pass does not come there either. -/
theorem at?_fragment_of_not_reaches {fragment : Value} {address : Json.Address}
    (hsub : Subschema address ∨ (rules.finishedFragment fragment).object? = none)
    (hnot : cleaning.reaches address = false) {level : Entries Value}
    (h : (rules.finishedFragment fragment).at? address = some (.object level)) :
    fragment.at? address = some (.object level) := by
  have hfinished : rules.finishedFragment fragment = withoutBounds (strict fragment) := rfl
  rw [hfinished] at hsub h
  rcases hsub with hsub | hlist
  · have hstrict := at?_of_not_reaches hsub hnot h
    rcases tightens_or_same hsub hstrict with ⟨v, htightens⟩ | hsame
    · rw [htightens.reaches] at hnot
      cases hnot
    · exact hsame
  · -- Neither pass changes what is no object.
    cases fragment with
    | object members => cases hlist
    | _ => exact h

/-- A schema of a document has a bound only where the cleaning pass does not come, and
there it is part of a fragment, as its author wrote it. -/
theorem bounds_of_compile (s : Schema) {address : Json.Address} (hsub : Subschema address)
    {level : Entries Value}
    (hlevel : (Provider.openAI.compile s).at? address = some (.object level)) :
    (cleaning.reaches address → hasBound level = false)
      ∧ (cleaning.reaches address = false →
        ∃ place fragment below, s.Places place (.fragment fragment)
          ∧ address = place ++ below ∧ fragment.at? below = some (.object level)) := by
  constructor
  · intro hreach
    obtain ⟨source, -, rfl⟩ := at?_of_reaches hreach hlevel
    exact hasBound_levelWithoutBounds source
  · intro hnot
    cases Provider.openAI.stands s hsub hlevel with
    | object hplaces _ =>
      rw [reaches_of_places hplaces] at hnot
      cases hnot
    | definition hplaces _ _ =>
      rw [Walk.reaches_append (reaches_of_places hplaces),
        Walk.reaches_of_members rfl] at hnot
      cases hnot
    | fragment hplaces hat hbelow =>
      rw [Walk.reaches_append (reaches_of_places hplaces)] at hnot
      exact ⟨_, _, _, hplaces, rfl, at?_fragment_of_not_reaches hbelow hnot hat⟩

/-- An array of numbers with a bound, and another bound in one of several branches. -/
def ratings : Schema where
  name := "Ratings"
  description := ""
  fields := [("ratings", {
    attributes := { kind := .array }
    shape := none
    items := some (.fragment (.object [
      ("type", .string "number"),
      ("maximum", .number (.integer 5)),
      ("oneOf", .array [.object [
        ("type", .string "integer"),
        ("minimum", .number (.integer 1))]])])) })]
  allowsExtra := false

theorem distinct_ratings : ratings.Distinct := by
  simp [ratings, Schema.Distinct, Schema.Holds, FieldsHold, FieldHolds, ShapeHolds,
    ItemsHold, Value.Distinct, Value.DistinctMembers, Value.DistinctItems]

/-- The items of the array have lost their bound. -/
theorem bounds_of_ratings : ∃ level,
    (Provider.openAI.compile ratings).at?
      [.member "properties", .member "ratings", .member "items"] = some (.object level)
    ∧ hasBound level = false := by
  have hreach : cleaning.reaches
      [.member "properties", .member "ratings", .member "items"] := rfl
  refine ⟨_, rfl, ?_⟩
  exact (bounds_of_compile ratings (subschema_of_reaches hreach) rfl).1 hreach

/-- In the branch the bound is left. -/
theorem not_forall_unbounded : ¬ ∀ s : Schema, s.Distinct →
    ∀ address : Json.Address, Subschema address →
    ∀ level, (Provider.openAI.compile s).at? address = some (.object level) →
      hasBound level = false := by
  intro h
  have hitems : Subschema [.member "properties", .member "ratings", .member "items"] :=
    subschema_of_reaches rfl
  have hbranch := hitems.step (.branch (by decide : "oneOf" ∈ branchKeywords) 0)
  have hnone := h ratings distinct_ratings _ hbranch
    [("type", .string "integer"), ("minimum", .number (.integer 1))] rfl
  cases hnone

end StructuredOutput.OpenAI
