import StructuredOutput.Proofs.OpenAI.Reach

/-!
# What the strict pass sets

Strict mode asks for a few entries at each level that describes an object, which
`strictEntries` lists. `OnlySets` says of a value and what has become of it that nothing
was done but to set such entries: every other key and value is in its place, at any depth.
The main statement is that the strict pass does just this, that it sets what is asked for
wherever it comes, and that neither a second run nor the cleaning pass before it makes a
difference.
-/

namespace StructuredOutput.OpenAI

open Json (Value)

/-! ## Entries that strict mode asks for -/

/-- The entries that strict mode asks for at a level. An object with properties requires
all of them and is closed; one without is closed unless it says something of other
names. -/
def strictEntries (level : Entries Value) : Entries Value :=
  if describesObject level then
    match Json.object? "properties" level with
    | some properties =>
      [("required", .texts properties.names), ("additionalProperties", .boolean false)]
    | none =>
      if (level.lookup "additionalProperties").isSome then []
      else [("additionalProperties", .boolean false)]
  else []

/-- Sets the given entries, one after the other. -/
def setAll (es : Entries Value) (level : Entries Value) : Entries Value :=
  es.foldl (fun acc e => acc.insert e.1 e.2) level

theorem tighten_eq_setAll (level : Entries Value) :
    tighten level = setAll (strictEntries level) level := by
  rw [tighten, strictEntries]
  cases describesObject level with
  | false => rfl
  | true =>
    cases Json.object? "properties" level with
    | some properties => rfl
    | none =>
      cases h : level.lookup "additionalProperties" with
      | some v => exact Entries.insertIfAbsent_of_lookup h _
      | none =>
        simp only [Entries.insertIfAbsent, h, Option.isSome_none, Bool.false_eq_true,
          if_false, if_true]
        exact (Entries.insert_of_lookup_eq_none h _).symm

/-- The names of the properties decide, not what the pass makes of them. -/
theorem strictEntries_mapValues (level : Entries Value) :
    strictEntries (level.mapValues (strictMember (describesObject level)))
      = strictEntries level := by
  have htransparent := transparent_strictMember (describesObject level)
  have hnames := htransparent.propertyNames level
  rw [strictEntries, strictEntries, htransparent.describesObject, Entries.lookup_mapValues,
    Option.isSome_map]
  cases h : Json.object? "properties" level with
  | some properties =>
    rw [h] at hnames
    obtain ⟨after, hafter, hsame⟩ := Option.map_eq_some_iff.mp hnames
    rw [hafter]
    simp only [hsame]
  | none =>
    rw [h] at hnames
    rw [Option.map_eq_none_iff.mp hnames]

/-- What is asked for is there once it is set. -/
theorem lookup_setAll_strictEntries {level : Entries Value} {e : String × Value}
    (h : e ∈ strictEntries level) (after : Entries Value) :
    (setAll (strictEntries level) after).lookup e.1 = some e.2 := by
  revert h
  rw [strictEntries]
  split
  · split
    · rename_i properties _
      intro h
      simp only [List.mem_cons, List.not_mem_nil, or_false] at h
      rcases h with rfl | rfl
      · simp only [setAll, List.foldl_cons, List.foldl_nil]
        rw [Entries.lookup_insert_of_ne (by decide), Entries.lookup_insert_self]
      · exact Entries.lookup_insert_self _ _ _
    · split
      · exact fun h => absurd h List.not_mem_nil
      · intro h
        rw [List.mem_singleton.mp h]
        exact Entries.lookup_insert_self _ _ _
  · exact fun h => absurd h List.not_mem_nil

/-! ## Setting entries and nothing else -/

/-- Member by member, the name is the same, and the value is related to the one before or
set as asked. -/
inductive MembersOnlySet (R : Value → Value → Prop) :
    Entries Value → Entries Value → Entries Value → Prop
  | nil (asked : Entries Value) : MembersOnlySet R [] [] asked
  | keep {before after asked : Entries Value} {name : String} {v w : Value} (h : R v w)
    (hrest : MembersOnlySet R before after asked) :
    MembersOnlySet R ((name, v) :: before) ((name, w) :: after) asked
  | set {before after asked : Entries Value} {name : String} {v w : Value}
    (h : (name, w) ∈ asked) (hrest : MembersOnlySet R before after asked) :
    MembersOnlySet R ((name, v) :: before) ((name, w) :: after) asked

/-- Nothing was done to a value but to set what strict mode asks for at levels of it: in
place where there was an entry of that name, and otherwise at the end. -/
inductive OnlySets : Value → Value → Prop
  | same (v : Value) : OnlySets v v
  | level {before kept added : Entries Value}
    (hkept : MembersOnlySet OnlySets before kept (strictEntries before))
    (hadded : ∀ e ∈ added, e ∈ strictEntries before ∧ before.lookup e.1 = none) :
    OnlySets (.object before) (.object (kept ++ added))

section

variable {R : Value → Value → Prop} {before kept added asked : Entries Value}

theorem membersOnlySet_mapValues {f : String → Value → Value}
    (h : ∀ e ∈ before, R e.2 (f e.1 e.2)) (asked : Entries Value) :
    MembersOnlySet R before (before.mapValues f) asked := by
  induction before with
  | nil => exact .nil asked
  | cons e rest ih =>
    obtain ⟨hfirst, hrest⟩ := List.forall_mem_cons.mp h
    exact .keep hfirst (ih hrest)

theorem MembersOnlySet.names_eq (h : MembersOnlySet R before kept asked) :
    kept.names = before.names := by
  induction h with
  | nil => rfl
  | keep _ _ ih => rw [Entries.names_cons, Entries.names_cons, ih]
  | set _ _ ih => rw [Entries.names_cons, Entries.names_cons, ih]

/-- An entry that is asked for is set in the place of one of its name. -/
theorem MembersOnlySet.insert {e : String × Value} (h : MembersOnlySet R before kept asked)
    (he : e ∈ asked) (hname : e.1 ∈ kept.names) :
    MembersOnlySet R before (kept.insert e.1 e.2) asked := by
  induction h with
  | nil => cases hname
  | @keep before after asked name v w hvw hrest ih =>
    rw [Entries.insert]
    by_cases hfirst : name = e.1
    · rw [if_pos hfirst]
      subst hfirst
      exact .set he hrest
    · rw [if_neg hfirst]
      exact .keep hvw (ih he ((List.mem_cons.mp hname).resolve_left (Ne.symm hfirst)))
  | @set before after asked name v w hset hrest ih =>
    rw [Entries.insert]
    by_cases hfirst : name = e.1
    · rw [if_pos hfirst]
      subst hfirst
      exact .set he hrest
    · rw [if_neg hfirst]
      exact .set hset (ih he ((List.mem_cons.mp hname).resolve_left (Ne.symm hfirst)))

/-- A level of which nothing was done but to set what is asked for. -/
def LevelOnlySets (R : Value → Value → Prop) (before after asked : Entries Value) : Prop :=
  ∃ kept added : Entries Value, after = kept ++ added ∧ MembersOnlySet R before kept asked
    ∧ ∀ e ∈ added, e ∈ asked ∧ before.lookup e.1 = none

theorem LevelOnlySets.insert {after : Entries Value} {e : String × Value}
    (h : LevelOnlySets R before after asked) (he : e ∈ asked) :
    LevelOnlySets R before (after.insert e.1 e.2) asked := by
  obtain ⟨kept, added, rfl, hkept, hadded⟩ := h
  rw [Entries.insert_append]
  by_cases hname : e.1 ∈ kept.names
  · rw [if_pos hname]
    exact ⟨_, added, rfl, hkept.insert he hname, hadded⟩
  · rw [if_neg hname]
    refine ⟨kept, _, rfl, hkept, fun d hd => ?_⟩
    rcases Entries.mem_of_mem_insert hd with rfl | hold
    · rw [hkept.names_eq] at hname
      exact ⟨he, Entries.lookup_eq_none_iff.mpr fun d hd hsame =>
        hname (hsame ▸ List.mem_map_of_mem hd)⟩
    · exact hadded d hold

theorem LevelOnlySets.setAll {after es : Entries Value}
    (h : LevelOnlySets R before after asked) (hes : ∀ e ∈ es, e ∈ asked) :
    LevelOnlySets R before (OpenAI.setAll es after) asked := by
  induction es generalizing after with
  | nil => exact h
  | cons e rest ih =>
    obtain ⟨he, hrest⟩ := List.forall_mem_cons.mp hes
    exact ih (h.insert he) hrest

end

/-! ## The pass -/

theorem onlySets_mapMembers {f : Value → Value} {v : Value}
    (h : v.Near fun w => OnlySets w (f w)) : OnlySets v (v.mapMembers f) := by
  cases v with
  | object ms =>
    have hmembers : MembersOnlySet OnlySets ms (Entries.mapValues (fun _ => f) ms)
        (strictEntries ms) := membersOnlySet_mapValues (h.members ms rfl) _
    have hlevel := OnlySets.level hmembers (List.forall_mem_nil _)
    rwa [List.append_nil] at hlevel
  | _ => exact .same _

theorem onlySets_strictMember (isObject : Bool) (keyword : String) {v : Value}
    (h : v.Near fun w => OnlySets w (strict w)) :
    OnlySets v (strictMember isObject keyword v) := by
  unfold strictMember
  split
  · exact h.self
  · split
    · exact onlySets_mapMembers h
    · split
      · exact h.self
      · exact .same v

theorem onlySets_strict (v : Value) : OnlySets v (strict v) := by
  induction v using Value.levelInduction with
  | leaf v h =>
    rw [strict_of_object?_eq_none h]
    exact .same v
  | level level ih =>
    -- The members are rewritten first, and then the entries are set that were asked for
    -- before.
    have hmembers := membersOnlySet_mapValues
      (fun e he => onlySets_strictMember (describesObject level) e.1 (ih e he))
      (strictEntries level)
    have hlevel : LevelOnlySets OnlySets level
        (level.mapValues (strictMember (describesObject level))) (strictEntries level) :=
      ⟨_, [], (List.append_nil _).symm, hmembers, List.forall_mem_nil _⟩
    rw [strict_object, tighten_eq_setAll, strictEntries_mapValues]
    obtain ⟨kept, added, hset, hkept, hadded⟩ := hlevel.setAll fun _ he => he
    rw [hset]
    exact .level hkept hadded

/-- A level to which the pass comes has what was asked for. -/
theorem Tightens.lookup_strictEntries {fragment : Value} {address : Json.Address}
    {level : Entries Value} (h : Tightens fragment address (.object level)) :
    ∃ after : Entries Value, (strict fragment).at? address = some (.object after)
      ∧ ∀ e ∈ strictEntries level, after.lookup e.1 = some e.2 := by
  refine ⟨_, h.at?.2.trans (congrArg some (strict_object level)), fun e he => ?_⟩
  rw [tighten_eq_setAll, strictEntries_mapValues]
  exact lookup_setAll_strictEntries he _

/-- The strict pass sets what strict mode asks for wherever it comes, and does nothing
else: every other key and value of a fragment stays in its place. A second run changes
nothing, and it does not matter whether bounds are taken away before or after. -/
theorem strict_sets_only (fragment : Value) :
    strict (strict fragment) = strict fragment
      ∧ strict (withoutBounds fragment) = withoutBounds (strict fragment)
      ∧ OnlySets fragment (strict fragment)
      ∧ ∀ address level, Tightens fragment address (.object level) →
        ∃ after : Entries Value, (strict fragment).at? address = some (.object after)
          ∧ ∀ e ∈ strictEntries level, after.lookup e.1 = some e.2 :=
  ⟨strict_strict fragment, (withoutBounds_strict fragment).symm, onlySets_strict fragment,
    fun _ _ h => h.lookup_strictEntries⟩

/-- What is said of a contact: an object that requires nothing yet, with a map of open
objects. -/
def contact : Value := .object [
  ("required", .array []),
  ("type", .string "object"),
  ("properties", .object [
    ("name", .object [("type", .string "string")]),
    ("labels", .object [
      ("type", .string "object"),
      ("additionalProperties", .object [("type", .string "object")])])])]

/-- The objects in the map are closed, and the contact requires its properties. -/
theorem strict_sets_only_contact : ∃ outer inner : Entries Value,
    (strict contact).at? [] = some (.object outer)
      ∧ outer.lookup "required" = some (.texts ["name", "labels"])
      ∧ (strict contact).at? [.member "properties", .member "labels",
        .member "additionalProperties"] = some (.object inner)
      ∧ inner.lookup "additionalProperties" = some (.boolean false) := by
  obtain ⟨-, -, -, hset⟩ := strict_sets_only contact
  have hlabels : Tightens contact [.member "properties", .member "labels"] _ :=
    Tightens.self.step (.property rfl rfl rfl)
  obtain ⟨outer, hat, houter⟩ := hset _ _ .self
  obtain ⟨inner, hbelow, hinner⟩ := hset _ _ (hlabels.step (.values rfl rfl rfl))
  have hrequired := houter ("required", .texts ["name", "labels"]) List.mem_cons_self
  have hclosed := hinner ("additionalProperties", .boolean false) List.mem_cons_self
  exact ⟨outer, inner, hat, hrequired, hbelow, hclosed⟩

/-- The entry that was there keeps its place, and the other one comes last. -/
example : strict (.object [
      ("required", .null),
      ("type", .string "object"),
      ("properties", .object [("name", .null)])])
    = .object [
      ("required", .texts ["name"]),
      ("type", .string "object"),
      ("properties", .object [("name", .null)]),
      ("additionalProperties", .boolean false)] := rfl

end StructuredOutput.OpenAI
