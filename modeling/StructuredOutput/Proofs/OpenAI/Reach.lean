import StructuredOutput.Proofs.OpenAI.Bounds
import StructuredOutput.Proofs.Schema.Subschemas

/-!
# Where the passes come

Neither pass goes to every schema of a document. `cleaning` is the walk of the one; where
the other comes depends on the levels on the way, and `Tightens` says of a fragment where.
The main statements are that a schema to which a pass does not come is left as it was
(`at?_of_not_reaches`, `tightens_or_same`), and that the cleaning pass comes wherever the
strict pass does.
-/

namespace StructuredOutput.OpenAI

open Json (Edge Value Walk)

/-! ## The cleaning pass -/

theorem follows_withoutBounds : cleaning.Follows withoutBounds where
  leaf _ h := withoutBounds_of_object?_eq_none h
  below level keyword h := by
    have hkeyword : isBound keyword = false := by
      by_cases hmin : keyword = "minimum"
      · subst hmin
        exact absurd rfl h
      by_cases hmax : keyword = "maximum"
      · subst hmax
        exact absurd rfl h
      simp [isBound, hmin, hmax]
    show (levelWithoutBounds level).lookup keyword = _
    rw [lookup_levelWithoutBounds hkeyword]
    exact congrArg (Option.map · _) (funext (cleanMember_eq keyword))

/-- A level to which the pass comes is cleaned. -/
theorem at?_of_reaches {address : Json.Address} (hreach : cleaning.reaches address)
    {v : Value} {level : Entries Value}
    (h : (withoutBounds v).at? address = some (.object level)) :
    ∃ source, v.at? address = some (.object source)
      ∧ level = levelWithoutBounds source := by
  rw [follows_withoutBounds.at?_of_reaches hreach] at h
  obtain ⟨w, hw, hclean⟩ := Option.map_eq_some_iff.mp h
  cases w with
  | object source =>
    cases hclean
    exact ⟨source, hw, rfl⟩
  | _ => cases hclean

/-- The walk leads to schemas only. -/
theorem schemaStep_of_cleaning {keyword : String} :
    (cleaning keyword = .value → SchemaStep keyword [])
      ∧ (cleaning keyword = .members → ∀ name, SchemaStep keyword [.member name])
      ∧ (cleaning keyword = .items → ∀ index, SchemaStep keyword [.item index]) := by
  unfold cleaning
  split
  · rename_i h
    subst h
    exact ⟨nofun, fun _ => .property, nofun⟩
  · split
    · rename_i h
      simp only [Bool.or_eq_true, decide_eq_true_eq] at h
      rcases h with rfl | rfl
      · exact ⟨fun _ => .items, nofun, nofun⟩
      · exact ⟨fun _ => .values, nofun, nofun⟩
    · split
      · rename_i h
        subst h
        exact ⟨nofun, nofun, fun _ => .branch List.mem_cons_self⟩
      · exact ⟨nofun, nofun, nofun⟩

theorem subschema_of_reaches {address : Json.Address} (h : cleaning.reaches address) :
    Subschema address := by
  fun_induction Walk.reaches cleaning address with
  | case1 => exact .self
  | case2 | case3 | case6 | case8 => cases h
  | case4 keyword rest hk ih => exact .prepend (schemaStep_of_cleaning.1 hk) (ih h)
  | case5 keyword hk name rest ih =>
    exact .prepend (schemaStep_of_cleaning.2.1 hk name) (ih h)
  | case7 keyword hk index rest ih =>
    exact .prepend (schemaStep_of_cleaning.2.2 hk index) (ih h)

theorem lookup_levelWithoutBounds_of_nowhere {keyword : String}
    (hnowhere : cleaning keyword = .nowhere) (hbound : isBound keyword = false)
    (level : Entries Value) :
    (levelWithoutBounds level).lookup keyword = level.lookup keyword := by
  have hclean : cleanMember keyword = id := by
    funext v
    rw [cleanMember_eq, hnowhere]
    rfl
  rw [lookup_levelWithoutBounds hbound, hclean, Option.map_id]
  rfl

/-- Of the branches, the walk goes on to those under one keyword. -/
theorem cleaning_of_mem_branchKeywords {keyword : String} (h : keyword ∈ branchKeywords) :
    cleaning keyword = .items ∨ cleaning keyword = .nowhere ∧ isBound keyword = false := by
  simp only [branchKeywords, List.mem_cons, List.not_mem_nil, or_false] at h
  rcases h with rfl | rfl | rfl
  · exact .inl rfl
  · exact .inr ⟨rfl, rfl⟩
  · exact .inr ⟨rfl, rfl⟩

/-- A list of items is no level, so that the pass stops there. -/
theorem at?_item_cleanMember (v : Value) (index : Nat) (address : Json.Address) :
    (cleanMember "items" v).at? (.item index :: address)
      = v.at? (.item index :: address) := by
  cases v <;> rfl

/-- At a level, a step that the walk does not take leads to a schema that the pass leaves
as it is. -/
theorem at?_of_not_reaches_step {keyword : String} {below : Json.Address}
    (hstep : SchemaStep keyword below)
    (hnot : cleaning.reaches (.member keyword :: below) = false) {v : Value}
    {inner : Entries Value}
    (h : (withoutBounds v).at? (.member keyword :: below) = some (.object inner)) :
    v.at? (.member keyword :: below) = some (.object inner) := by
  cases v with
  | object level =>
    obtain ⟨_, w, ⟨⟩, hw, hat⟩ := Value.at?_member_cons h
    cases hstep with
    | property name =>
      rw [Walk.reaches_of_members rfl] at hnot
      cases hnot
    | items =>
      rw [Walk.reaches_of_value rfl] at hnot
      cases hnot
    | values =>
      rw [Walk.reaches_of_value rfl] at hnot
      cases hnot
    | item index =>
      rw [lookup_levelWithoutBounds rfl] at hw
      obtain ⟨items, hitems, rfl⟩ := Option.map_eq_some_iff.mp hw
      rw [at?_item_cleanMember] at hat
      rw [Value.at?_cons, Edge.follow, hitems]
      exact hat
    | branch hbranch index =>
      rcases cleaning_of_mem_branchKeywords hbranch with hitems | ⟨hnowhere, hbound⟩
      · rw [Walk.reaches_of_items hitems] at hnot
        cases hnot
      · rw [lookup_levelWithoutBounds_of_nowhere hnowhere hbound] at hw
        rw [Value.at?_cons, Edge.follow, hw]
        exact hat
  | _ => cases h

/-- A schema to which the pass does not come is as it was. -/
theorem at?_of_not_reaches {address : Json.Address} (hsub : Subschema address)
    (hnot : cleaning.reaches address = false) {v : Value} {inner : Entries Value}
    (h : (withoutBounds v).at? address = some (.object inner)) :
    v.at? address = some (.object inner) := by
  induction hsub generalizing inner with
  | self => cases hnot
  | @step above below keyword _ hstep ih =>
    rw [Value.at?_append] at h ⊢
    obtain ⟨w, hw, hinner⟩ := Option.bind_eq_some_iff.mp h
    cases hreaches : cleaning.reaches above with
    | true =>
      -- The pass comes to the level above, and its walk ends there.
      rw [Walk.reaches_append hreaches] at hnot
      rw [follows_withoutBounds.at?_of_reaches hreaches] at hw
      obtain ⟨u, hu, rfl⟩ := Option.map_eq_some_iff.mp hw
      rw [hu]
      exact at?_of_not_reaches_step hstep hnot hinner
    | false =>
      obtain ⟨level, -, rfl, -, -⟩ := Value.at?_member_cons hinner
      rw [ih hreaches hw]
      exact hinner

/-! ## The strict pass -/

/-- The steps that the strict pass takes from a level, with the values that it comes to. -/
inductive TightenStep (level : Entries Value) : String → Json.Address → Value → Prop
  | items {v : Value} (h : level.lookup "items" = some v) : TightenStep level "items" [] v
  | property {definitions : Entries Value} {name : String} {v : Value}
    (hobject : describesObject level)
    (hdefinitions : level.lookup "properties" = some (.object definitions))
    (h : definitions.lookup name = some v) :
    TightenStep level "properties" [.member name] v
  /-- With properties, what is said of other names is replaced. -/
  | values {v : Value} (hobject : describesObject level)
    (hproperties : Json.object? "properties" level = none)
    (h : level.lookup "additionalProperties" = some v) :
    TightenStep level "additionalProperties" [] v

/-- The values in a fragment to which the strict pass comes, with their addresses. -/
inductive Tightens (fragment : Value) : Json.Address → Value → Prop
  | self : Tightens fragment [] fragment
  | step {address below : Json.Address} {keyword : String} {level : Entries Value}
    {v : Value} (above : Tightens fragment address (.object level))
    (h : TightenStep level keyword below v) :
    Tightens fragment (address ++ .member keyword :: below) v

/-- Under most keywords a strict level holds what the pass makes of the value there. -/
theorem follow_strict {keyword : String} (hr : keyword ≠ "required")
    (ha : keyword ≠ "additionalProperties") (level : Entries Value) :
    (Edge.member keyword).follow (strict (.object level))
      = (level.lookup keyword).map (strictMember (describesObject level) keyword) := by
  rw [strict_object, Edge.follow, lookup_tighten_of_ne hr ha, Entries.lookup_mapValues]

/-- Of other names a strict level says what it said, unless it describes an object. -/
theorem follow_strict_values (level : Entries Value) :
    (Edge.member "additionalProperties").follow (strict (.object level))
      = if describesObject level then
          some (if (Json.object? "properties" level).isSome then .boolean false
            else ((level.lookup "additionalProperties").map strict).getD (.boolean false))
        else level.lookup "additionalProperties" := by
  have htransparent := transparent_strictMember (describesObject level)
  rw [strict_object, Edge.follow, tighten_eq, htransparent.describesObject,
    htransparent.propertyNames]
  cases hobject : describesObject level with
  | true =>
    cases hproperties : Json.object? "properties" level with
    | none =>
      simp only [if_true, Option.map_none, Option.isSome_none,
        Entries.lookup_insertIfAbsent_self, Entries.lookup_mapValues]
      rfl
    | some properties =>
      simp only [if_true, Option.map_some, Option.isSome_some, Entries.lookup_insert_self]
  | false =>
    simp only [Bool.false_eq_true, if_false, Entries.lookup_mapValues]
    exact Option.map_id'

/-- What the pass comes to, it makes strict. -/
theorem TightenStep.at? {level : Entries Value} {keyword : String} {below : Json.Address}
    {v : Value} (h : TightenStep level keyword below v) :
    (Value.object level).at? (.member keyword :: below) = some v
      ∧ (strict (.object level)).at? (.member keyword :: below) = some (strict v) := by
  cases h with
  | items h =>
    refine ⟨(Value.at?_member level "items").trans h, ?_⟩
    rw [Value.at?_cons, follow_strict (by decide) (by decide), h]
    rfl
  | property hobject hdefinitions h =>
    constructor
    · rw [Value.at?_cons, Edge.follow, hdefinitions, Option.bind_some, Value.at?_member, h]
    · rw [Value.at?_cons, follow_strict (by decide) (by decide), hdefinitions, hobject]
      show (Value.object (Entries.mapValues (fun _ => strict) _)).at? _ = _
      rw [Value.at?_member, Entries.lookup_mapValues, h]
      rfl
  | values hobject hproperties h =>
    refine ⟨(Value.at?_member level "additionalProperties").trans h, ?_⟩
    rw [Value.at?_cons, follow_strict_values, if_pos hobject, hproperties, h]
    rfl

theorem Tightens.at? {fragment : Value} {address : Json.Address} {v : Value}
    (h : Tightens fragment address v) :
    fragment.at? address = some v ∧ (strict fragment).at? address = some (strict v) := by
  induction h with
  | self => exact ⟨rfl, rfl⟩
  | step _ hstep ih =>
    obtain ⟨hsource, hstrict⟩ := hstep.at?
    rw [Value.at?_append, Value.at?_append, ih.1, ih.2]
    exact ⟨hsource, hstrict⟩

/-- The cleaning pass comes there as well. -/
theorem Tightens.reaches {fragment : Value} {address : Json.Address} {v : Value}
    (h : Tightens fragment address v) : cleaning.reaches address := by
  induction h with
  | self => rfl
  | step _ hstep ih =>
    rw [Walk.reaches_append ih]
    cases hstep with
    | items _ => exact Walk.reaches_of_value rfl []
    | property _ _ _ => exact Walk.reaches_of_members rfl _ []
    | values _ _ _ => exact Walk.reaches_of_value rfl []

section

variable {level inner : Entries Value}

/-- The definitions of an object are all made strict; another level keeps them. -/
theorem tightens_or_same_property {name : String}
    (h : (strict (.object level)).at? [.member "properties", .member name]
      = some (.object inner)) :
    (∃ v, TightenStep level "properties" [.member name] v)
      ∨ (Value.object level).at? [.member "properties", .member name]
        = some (.object inner) := by
  rw [Value.at?_cons, follow_strict (by decide) (by decide)] at h
  obtain ⟨w, hw, hat⟩ := Option.bind_eq_some_iff.mp h
  obtain ⟨v, hv, rfl⟩ := Option.map_eq_some_iff.mp hw
  cases hobject : describesObject level with
  | true =>
    rw [hobject] at hat
    cases v with
    | object definitions =>
      change (Value.object (Entries.mapValues (fun _ => strict) definitions)).at? _ = _
        at hat
      rw [Value.at?_member, Entries.lookup_mapValues] at hat
      obtain ⟨definition, hdefinition, -⟩ := Option.map_eq_some_iff.mp hat
      exact .inl ⟨definition, .property hobject hv hdefinition⟩
    | _ => cases hat
  | false =>
    rw [hobject] at hat
    rw [Value.at?_cons, Edge.follow, hv]
    exact .inr hat

/-- One schema for all items is made strict at every level. -/
theorem exists_tightenStep_items
    (h : (strict (.object level)).at? [.member "items"] = some (.object inner)) :
    ∃ v, TightenStep level "items" [] v := by
  rw [Value.at?_cons, follow_strict (by decide) (by decide)] at h
  obtain ⟨w, hw, -⟩ := Option.bind_eq_some_iff.mp h
  obtain ⟨v, hv, -⟩ := Option.map_eq_some_iff.mp hw
  exact ⟨v, .items hv⟩

/-- A schema for one item stands in a list, at which the pass stops. -/
theorem at?_strict_item (level : Entries Value) (index : Nat) :
    (strict (.object level)).at? [.member "items", .item index]
      = (Value.object level).at? [.member "items", .item index] := by
  rw [Value.at?_cons, follow_strict (by decide) (by decide), Value.at?_cons, Edge.follow]
  cases level.lookup "items" with
  | none => rfl
  | some items => cases items <;> rfl

/-- What an object without properties says of other names is made strict. -/
theorem tightens_or_same_values
    (h : (strict (.object level)).at? [.member "additionalProperties"]
      = some (.object inner)) :
    (∃ v, TightenStep level "additionalProperties" [] v)
      ∨ (Value.object level).at? [.member "additionalProperties"]
        = some (.object inner) := by
  rw [Value.at?_cons, follow_strict_values] at h
  cases hobject : describesObject level with
  | true =>
    rw [hobject, if_pos rfl] at h
    cases hproperties : Json.object? "properties" level with
    | some properties =>
      rw [hproperties] at h
      cases h
    | none =>
      rw [hproperties] at h
      cases hv : level.lookup "additionalProperties" with
      | some v => exact .inl ⟨v, .values hobject hproperties hv⟩
      | none =>
        rw [hv] at h
        cases h
  | false =>
    rw [hobject] at h
    exact .inr h

/-- Branches are no positions of the pass. -/
theorem follow_strict_branch {keyword : String} (h : keyword ∈ branchKeywords)
    (level : Entries Value) :
    (Edge.member keyword).follow (strict (.object level)) = level.lookup keyword := by
  obtain ⟨hproperties, hitems, hextra⟩ := ne_of_mem_branchKeywords h
  have hrequired : keyword ≠ "required" := by
    rintro rfl
    exact absurd h (by decide)
  have hmember (v : Value) : strictMember (describesObject level) keyword v = v := by
    simp [strictMember, hproperties, hitems, hextra]
  rw [follow_strict hrequired hextra, funext hmember, Option.map_id']

/-- At a level, the strict pass takes a step or leaves the schema there as it is. -/
theorem tightens_or_same_step {keyword : String} {below : Json.Address}
    (hstep : SchemaStep keyword below)
    (h : (strict (.object level)).at? (.member keyword :: below) = some (.object inner)) :
    (∃ v, TightenStep level keyword below v)
      ∨ (Value.object level).at? (.member keyword :: below) = some (.object inner) := by
  cases hstep with
  | property name => exact tightens_or_same_property h
  | items => exact .inl (exists_tightenStep_items h)
  | item index =>
    rw [at?_strict_item] at h
    exact .inr h
  | values => exact tightens_or_same_values h
  | branch hbranch index =>
    rw [Value.at?_cons, follow_strict_branch hbranch] at h
    exact .inr h

end

/-- A schema to which the strict pass does not come is as it was. -/
theorem tightens_or_same {fragment : Value} {address : Json.Address}
    (hsub : Subschema address) {inner : Entries Value}
    (h : (strict fragment).at? address = some (.object inner)) :
    (∃ v, Tightens fragment address v) ∨ fragment.at? address = some (.object inner) := by
  induction hsub generalizing inner with
  | self => exact .inl ⟨fragment, .self⟩
  | step _ hstep ih =>
    rw [Value.at?_append] at h ⊢
    obtain ⟨w, hw, hinner⟩ := Option.bind_eq_some_iff.mp h
    obtain ⟨outer, -, rfl, -, -⟩ := Value.at?_member_cons hinner
    rcases ih hw with ⟨v, htightens⟩ | hsame
    · obtain ⟨hsource, hstrict⟩ := htightens.at?
      rw [hsource, Option.bind_some]
      cases v with
      | object level =>
        rw [← Option.some.inj (hstrict.symm.trans hw)] at hinner
        rcases tightens_or_same_step hstep hinner with ⟨u, hu⟩ | hsame
        · exact .inl ⟨u, htightens.step hu⟩
        · exact .inr hsame
      | _ => cases hstrict.symm.trans hw
    · rw [hsame]
      exact .inr hinner

end StructuredOutput.OpenAI
