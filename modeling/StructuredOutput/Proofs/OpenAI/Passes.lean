import StructuredOutput.Dialect.OpenAI
import StructuredOutput.Proofs.Json.Level

/-!
# The two passes of the OpenAI dialect

`strict` tightens the objects of a fragment, `withoutBounds` takes the numeric bounds out
of a document. Each goes through a level by `Entries.mapValues`, under a table that says
what becomes of the value of a keyword (`strictMember`, `cleanMember`). The main statements
are that each pass is idempotent and that the two commute; what they rest on is that
neither table touches what `tighten` looks at or writes (`Transparent`).
-/

namespace StructuredOutput.OpenAI

open Json (Value)

/-! ## The cleaning pass, level by level -/

/-- What the cleaning pass makes of the value of a keyword. -/
def cleanMember (keyword : String) (v : Value) : Value :=
  if keyword = "properties" then v.mapMembers withoutBounds
  else if keyword = "items" || keyword = "additionalProperties" then withoutBounds v
  else if keyword = "anyOf" then v.mapItems withoutBounds
  else v

theorem definitionsWithoutBounds_eq (definitions : Entries Value) :
    definitionsWithoutBounds definitions
      = definitions.mapValues fun _ => withoutBounds := by
  induction definitions with
  | nil => rfl
  | cons d rest ih => simp [definitionsWithoutBounds, ih]

theorem branchesWithoutBounds_eq (branches : List Value) :
    branchesWithoutBounds branches = branches.map withoutBounds := by
  induction branches with
  | nil => rfl
  | cons v rest ih => simp [branchesWithoutBounds, ih]

theorem propertiesWithoutBounds_eq (v : Value) :
    propertiesWithoutBounds v = v.mapMembers withoutBounds := by
  cases v with
  | object definitions =>
    exact congrArg Value.object (definitionsWithoutBounds_eq definitions)
  | _ => rfl

theorem alternativesWithoutBounds_eq (v : Value) :
    alternativesWithoutBounds v = v.mapItems withoutBounds := by
  cases v with
  | array branches => exact congrArg Value.array (branchesWithoutBounds_eq branches)
  | _ => rfl

theorem levelWithoutBounds_eq (level : Entries Value) :
    levelWithoutBounds level
      = (level.keepNames fun keyword => !isBound keyword).mapValues cleanMember := by
  induction level with
  | nil => rfl
  | cons e rest ih =>
    obtain ⟨keyword, v⟩ := e
    rw [levelWithoutBounds, ih, propertiesWithoutBounds_eq, alternativesWithoutBounds_eq]
    by_cases h : isBound keyword
    · simp [h, Entries.keepNames]
    · simp [h, Entries.keepNames, cleanMember]

theorem withoutBounds_of_object?_eq_none {v : Value} (h : v.object? = none) :
    withoutBounds v = v := by
  cases v with
  | object level => cases h
  | _ => rfl

/-- Under a keyword that is no bound, the cleaned level holds the cleaned value. -/
theorem lookup_levelWithoutBounds {keyword : String} (h : isBound keyword = false)
    (level : Entries Value) :
    (levelWithoutBounds level).lookup keyword
      = (level.lookup keyword).map (cleanMember keyword) := by
  rw [levelWithoutBounds_eq, Entries.lookup_mapValues,
    Entries.lookup_keepNames (by simp [h])]

/-! ## The strict pass, level by level -/

/-- What the strict pass makes of the value of a keyword, at a level that describes an
object or not. -/
def strictMember (isObject : Bool) (keyword : String) (v : Value) : Value :=
  if keyword = "items" then strict v
  else if keyword = "properties" && isObject then v.mapMembers strict
  else if keyword = "additionalProperties" && isObject then strict v
  else v

theorem strictDefinitions_eq (definitions : Entries Value) :
    strictDefinitions definitions = definitions.mapValues fun _ => strict := by
  induction definitions with
  | nil => rfl
  | cons d rest ih => simp [strictDefinitions, ih]

theorem strictProperties_eq (v : Value) : strictProperties v = v.mapMembers strict := by
  cases v with
  | object definitions => exact congrArg Value.object (strictDefinitions_eq definitions)
  | _ => rfl

theorem strictLevel_eq (isObject : Bool) (level : Entries Value) :
    strictLevel isObject level = level.mapValues (strictMember isObject) := by
  induction level with
  | nil => rfl
  | cons e rest ih =>
    obtain ⟨keyword, v⟩ := e
    rw [strictLevel, ih, strictProperties_eq]
    rfl

theorem strict_object (level : Entries Value) :
    strict (.object level)
      = .object (tighten (level.mapValues (strictMember (describesObject level)))) := by
  rw [strict, strictLevel_eq]

theorem strict_of_object?_eq_none {v : Value} (h : v.object? = none) : strict v = v := by
  cases v with
  | object level => cases h
  | _ => rfl

/-! ## Tightening -/

/-- Of the properties, tightening looks at the names only. -/
theorem tighten_eq (level : Entries Value) :
    tighten level =
      if describesObject level then
        match (Json.object? "properties" level).map Entries.names with
        | some names =>
          (level.insert "required" (.texts names)).insert "additionalProperties"
            (.boolean false)
        | none => level.insertIfAbsent "additionalProperties" (.boolean false)
      else level := by
  rw [tighten]
  cases Json.object? "properties" level <;> rfl

theorem tighten_of_properties {level properties : Entries Value}
    (h : describesObject level)
    (hproperties : Json.object? "properties" level = some properties) :
    tighten level = (level.insert "required" (.texts properties.names)).insert
      "additionalProperties" (.boolean false) := by
  rw [tighten, if_pos h, hproperties]

theorem tighten_of_no_properties {level : Entries Value} (h : describesObject level)
    (hproperties : Json.object? "properties" level = none) :
    tighten level = level.insertIfAbsent "additionalProperties" (.boolean false) := by
  rw [tighten, if_pos h, hproperties]

theorem tighten_of_not_describesObject {level : Entries Value}
    (h : describesObject level = false) : tighten level = level := by
  rw [tighten, h]
  exact if_neg Bool.false_ne_true

/-- A level that requires all of its properties and is closed is as tight as it gets. -/
theorem tighten_of_lookups {level properties : Entries Value} (h : describesObject level)
    (hproperties : Json.object? "properties" level = some properties)
    (hrequired : level.lookup "required" = some (.texts properties.names))
    (hextra : level.lookup "additionalProperties" = some (.boolean false)) :
    tighten level = level := by
  rw [tighten_of_properties h hproperties, Entries.insert_of_lookup hrequired,
    Entries.insert_of_lookup hextra]

theorem lookup_tighten_of_ne {keyword : String} (hr : keyword ≠ "required")
    (ha : keyword ≠ "additionalProperties") (level : Entries Value) :
    (tighten level).lookup keyword = level.lookup keyword := by
  unfold tighten
  split
  · split
    · rw [Entries.lookup_insert_of_ne ha, Entries.lookup_insert_of_ne hr]
    · rw [Entries.lookup_insertIfAbsent_of_ne ha]
  · rfl

@[simp] theorem describesObject_tighten (level : Entries Value) :
    describesObject (tighten level) = describesObject level := by
  simp [describesObject, Json.text?, lookup_tighten_of_ne]

@[simp] theorem properties_tighten (level : Entries Value) :
    Json.object? "properties" (tighten level) = Json.object? "properties" level := by
  simp [Json.object?, lookup_tighten_of_ne]

theorem tighten_tighten (level : Entries Value) :
    tighten (tighten level) = tighten level := by
  cases h : describesObject level with
  | false => rw [tighten_of_not_describesObject h, tighten_of_not_describesObject h]
  | true =>
    have hobject : describesObject (tighten level) :=
      (describesObject_tighten level).trans h
    cases hp : Json.object? "properties" level with
    | some properties =>
      -- Both entries are already there, with these values.
      have ht := tighten_of_properties h hp
      have hr : (tighten level).lookup "required" = some (.texts properties.names) := by
        rw [ht, Entries.lookup_insert_of_ne (by decide), Entries.lookup_insert_self]
      have ha : (tighten level).lookup "additionalProperties" = some (.boolean false) := by
        rw [ht, Entries.lookup_insert_self]
      exact tighten_of_lookups hobject ((properties_tighten level).trans hp) hr ha
    | none =>
      rw [tighten_of_no_properties hobject ((properties_tighten level).trans hp),
        tighten_of_no_properties h hp, Entries.insertIfAbsent_insertIfAbsent]

/-! ## What tightening does not see -/

/-- A transformation of levels that leaves alone what `tighten` looks at and what it
writes. -/
structure Transparent (T : Entries Value → Entries Value) : Prop where
  describesObject : ∀ level, describesObject (T level) = describesObject level
  propertyNames : ∀ level, (Json.object? "properties" (T level)).map Entries.names
    = (Json.object? "properties" level).map Entries.names
  requireNames : ∀ names level,
    T (level.insert "required" (.texts names)) = (T level).insert "required" (.texts names)
  forbid : ∀ level, T (level.insert "additionalProperties" (.boolean false))
    = (T level).insert "additionalProperties" (.boolean false)
  forbidIfAbsent : ∀ level,
    T (level.insertIfAbsent "additionalProperties" (.boolean false))
      = (T level).insertIfAbsent "additionalProperties" (.boolean false)

/-- It does not matter whether a level is tightened before or after. -/
theorem Transparent.tighten {T : Entries Value → Entries Value} (hT : Transparent T)
    (level : Entries Value) : T (tighten level) = OpenAI.tighten (T level) := by
  rw [tighten_eq, tighten_eq, hT.describesObject, hT.propertyNames]
  split
  · split
    · rw [hT.forbid, hT.requireNames]
    · rw [hT.forbidIfAbsent]
  · rfl

theorem Transparent.comp {T U : Entries Value → Entries Value} (hU : Transparent U)
    (hT : Transparent T) : Transparent (U ∘ T) where
  describesObject level := (hU.describesObject _).trans (hT.describesObject level)
  propertyNames level := (hU.propertyNames _).trans (hT.propertyNames level)
  requireNames names level := by simp [hT.requireNames, hU.requireNames]
  forbid level := by simp [hT.forbid, hU.forbid]
  forbidIfAbsent level := by simp [hT.forbidIfAbsent, hU.forbidIfAbsent]

theorem transparent_mapValues {f : String → Value → Value} (htype : ∀ v, f "type" v = v)
    (hrequired : ∀ v, f "required" v = v)
    (hextra : f "additionalProperties" (.boolean false) = .boolean false)
    (hproperties : ∀ v, (f "properties" v).object?.map Entries.names
      = v.object?.map Entries.names) : Transparent (Entries.mapValues f) where
  describesObject level := by
    rw [StructuredOutput.describesObject, StructuredOutput.describesObject, Json.text?,
      Json.text?, Entries.lookup_mapValues, show f "type" = id from funext htype,
      Option.map_id]
    rfl
  propertyNames level := by
    rw [Json.object?, Json.object?, Entries.lookup_mapValues]
    cases level.lookup "properties" with
    | none => rfl
    | some v => exact hproperties v
  requireNames names level := by rw [Entries.mapValues_insert, hrequired]
  forbid level := by rw [Entries.mapValues_insert, hextra]
  forbidIfAbsent level := by rw [Entries.mapValues_insertIfAbsent, hextra]

theorem transparent_dropBounds :
    Transparent (Entries.keepNames fun keyword => !isBound keyword) where
  describesObject level := by
    simp [StructuredOutput.describesObject, Json.text?, Entries.lookup_keepNames, isBound]
  propertyNames level := by
    simp [Json.object?, Entries.lookup_keepNames, isBound]
  requireNames names level := Entries.keepNames_insert rfl _ level
  forbid level := Entries.keepNames_insert rfl _ level
  forbidIfAbsent level := Entries.keepNames_insertIfAbsent rfl _ level

theorem transparent_strictMember (isObject : Bool) :
    Transparent (Entries.mapValues (strictMember isObject)) := by
  apply transparent_mapValues
  · intro v
    rfl
  · intro v
    rfl
  · cases isObject <;> rfl
  · intro v
    cases isObject with
    | false => rfl
    | true => simp [strictMember, Function.comp_def]

theorem transparent_cleanMember : Transparent (Entries.mapValues cleanMember) := by
  apply transparent_mapValues
  · intro v
    rfl
  · intro v
    rfl
  · rfl
  · intro v
    simp [cleanMember, Function.comp_def]

theorem transparent_levelWithoutBounds : Transparent levelWithoutBounds := by
  have h : levelWithoutBounds = Entries.mapValues cleanMember
      ∘ Entries.keepNames fun keyword => !isBound keyword := funext levelWithoutBounds_eq
  rw [h]
  exact transparent_cleanMember.comp transparent_dropBounds

/-! ## The passes repeated -/

theorem withoutBounds_withoutBounds (v : Value) :
    withoutBounds (withoutBounds v) = withoutBounds v := by
  induction v using Value.levelInduction with
  | leaf v h => rw [withoutBounds_of_object?_eq_none h, withoutBounds_of_object?_eq_none h]
  | level level ih =>
    rw [withoutBounds, withoutBounds, levelWithoutBounds_eq, levelWithoutBounds_eq,
      Entries.keepNames_mapValues, Entries.keepNames_keepNames,
      Entries.mapValues_mapValues]
    congr 1
    apply Entries.mapValues_congr
    intro e he
    have hnear := ih e (Entries.mem_keepNames.mp he).1
    unfold cleanMember
    split
    · rw [Value.mapMembers_mapMembers]
      exact hnear.mapMembers_congr fun w hw => hw
    · split
      · exact hnear.self
      · split
        · rw [Value.mapItems_mapItems]
          exact hnear.mapItems_congr fun w hw => hw
        · rfl

theorem strict_strict (v : Value) : strict (strict v) = strict v := by
  induction v using Value.levelInduction with
  | leaf v h => rw [strict_of_object?_eq_none h, strict_of_object?_eq_none h]
  | level level ih =>
    -- The second run tightens a level whose values it has rewritten; the order does not
    -- matter.
    have htransparent := transparent_strictMember (describesObject level)
    rw [strict_object, strict_object, describesObject_tighten,
      htransparent.describesObject, htransparent.tighten, tighten_tighten,
      Entries.mapValues_mapValues]
    congr 2
    apply Entries.mapValues_congr
    intro e he
    have hnear := ih e he
    unfold strictMember
    split
    · exact hnear.self
    · split
      · rw [Value.mapMembers_mapMembers]
        exact hnear.mapMembers_congr fun w hw => hw
      · split
        · exact hnear.self
        · rfl

/-- The two tables commute under every keyword, if the two passes do near the value. -/
theorem cleanMember_strictMember (isObject : Bool) (keyword : String) {v : Value}
    (h : v.Near fun w => withoutBounds (strict w) = strict (withoutBounds w)) :
    cleanMember keyword (strictMember isObject keyword v)
      = strictMember isObject keyword (cleanMember keyword v) := by
  by_cases hp : keyword = "properties"
  · subst hp
    cases isObject with
    | false => rfl
    | true =>
      simp only [cleanMember, strictMember, String.reduceEq, if_true, if_false,
        Bool.and_true, decide_true, Value.mapMembers_mapMembers]
      exact h.mapMembers_congr fun w hw => hw
  by_cases hi : keyword = "items"
  · subst hi
    exact h.self
  by_cases ha : keyword = "additionalProperties"
  · subst ha
    cases isObject with
    | false => rfl
    | true => exact h.self
  have hs : ∀ w, strictMember isObject keyword w = w := by
    intro w
    simp [strictMember, hp, hi, ha]
  rw [hs, hs]

theorem withoutBounds_strict (v : Value) :
    withoutBounds (strict v) = strict (withoutBounds v) := by
  induction v using Value.levelInduction with
  | leaf v h =>
    rw [withoutBounds_of_object?_eq_none h, strict_of_object?_eq_none h,
      withoutBounds_of_object?_eq_none h]
  | level level ih =>
    -- Once tightening is out of the way, both sides rewrite the same members that are no
    -- bounds.
    have hclean := transparent_levelWithoutBounds
    rw [strict_object, withoutBounds, hclean.tighten, withoutBounds, strict_object,
      hclean.describesObject, levelWithoutBounds_eq, levelWithoutBounds_eq,
      Entries.keepNames_mapValues, Entries.mapValues_mapValues,
      Entries.mapValues_mapValues]
    congr 2
    apply Entries.mapValues_congr
    intro e he
    exact cleanMember_strictMember _ e.1 (ih e (Entries.mem_keepNames.mp he).1)

end StructuredOutput.OpenAI
