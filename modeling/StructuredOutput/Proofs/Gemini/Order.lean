import StructuredOutput.Dialect.Gemini
import StructuredOutput.Proofs.Json.Level

/-!
# Stated orders in fragments

The one pass of the Gemini dialect, `ordered`, level by level: the table `orderedMember`
says what becomes of the value of a keyword, `stateOrder` adds the order of the level
itself. The main statement is that the pass is idempotent.
-/

namespace StructuredOutput.Gemini

open Json (Value)

/-- What the pass makes of the value of a keyword. -/
def orderedMember (keyword : String) (v : Value) : Value :=
  if keyword = "properties" then v.mapMembers ordered
  else if keyword = "items" || keyword = "additionalProperties" then ordered v
  else v

theorem orderedDefinitions_eq (definitions : Entries Value) :
    orderedDefinitions definitions = definitions.mapValues fun _ => ordered := by
  induction definitions with
  | nil => rfl
  | cons d rest ih => simp [orderedDefinitions, ih]

theorem orderedProperties_eq (v : Value) : orderedProperties v = v.mapMembers ordered := by
  cases v with
  | object definitions => exact congrArg Value.object (orderedDefinitions_eq definitions)
  | _ => rfl

theorem orderedLevel_eq (level : Entries Value) :
    orderedLevel level = level.mapValues orderedMember := by
  induction level with
  | nil => rfl
  | cons e rest ih =>
    obtain ⟨keyword, v⟩ := e
    rw [orderedLevel, ih, orderedProperties_eq]
    rfl

theorem ordered_object (level : Entries Value) :
    ordered (.object level) = .object (stateOrder (level.mapValues orderedMember)) := by
  rw [ordered, orderedLevel_eq]

theorem ordered_of_object?_eq_none {v : Value} (h : v.object? = none) : ordered v = v := by
  cases v with
  | object level => cases h
  | _ => rfl

/-! ## The order of one level -/

/-- Of the properties, the pass looks at the names only. -/
theorem stateOrder_eq (level : Entries Value) :
    stateOrder level =
      match describesObject level, (Json.object? "properties" level).map Entries.names with
      | true, some names => level.insertIfAbsent "propertyOrdering" (.texts names)
      | _, _ => level := by
  rw [stateOrder]
  cases describesObject level <;> cases Json.object? "properties" level <;> rfl

theorem lookup_stateOrder_of_ne {keyword : String} (h : keyword ≠ "propertyOrdering")
    (level : Entries Value) :
    (stateOrder level).lookup keyword = level.lookup keyword := by
  unfold stateOrder
  split
  · exact Entries.lookup_insertIfAbsent_of_ne h _ level
  · rfl

@[simp] theorem describesObject_stateOrder (level : Entries Value) :
    describesObject (stateOrder level) = describesObject level := by
  simp [describesObject, Json.text?, lookup_stateOrder_of_ne]

@[simp] theorem properties_stateOrder (level : Entries Value) :
    Json.object? "properties" (stateOrder level) = Json.object? "properties" level := by
  simp [Json.object?, lookup_stateOrder_of_ne]

theorem stateOrder_stateOrder (level : Entries Value) :
    stateOrder (stateOrder level) = stateOrder level := by
  cases ht : describesObject level with
  | false => simp [stateOrder, ht]
  | true =>
    cases hp : Json.object? "properties" level with
    | none => simp [stateOrder, ht, hp]
    | some properties =>
      have hs : stateOrder level
          = level.insertIfAbsent "propertyOrdering" (.texts properties.names) := by
        rw [stateOrder, ht, hp]
      rw [stateOrder, describesObject_stateOrder, properties_stateOrder, ht, hp, hs]
      exact Entries.insertIfAbsent_insertIfAbsent _ _ _ level

@[simp] theorem describesObject_orderedMember (level : Entries Value) :
    describesObject (level.mapValues orderedMember) = describesObject level := by
  rw [describesObject, describesObject, Json.text?, Json.text?, Entries.lookup_mapValues,
    show orderedMember "type" = id from rfl, Option.map_id]
  rfl

@[simp] theorem properties_orderedMember (level : Entries Value) :
    Json.object? "properties" (level.mapValues orderedMember)
      = (Json.object? "properties" level).map (Entries.mapValues fun _ => ordered) := by
  rw [Json.object?, Json.object?, Entries.lookup_mapValues]
  cases level.lookup "properties" with
  | none => rfl
  | some v => exact Value.object?_mapMembers ordered v

/-- It does not matter whether the order of a level is stated before or after its values
are gone through. -/
theorem orderedMember_stateOrder (level : Entries Value) :
    (stateOrder level).mapValues orderedMember
      = stateOrder (level.mapValues orderedMember) := by
  rw [stateOrder_eq, stateOrder_eq, describesObject_orderedMember,
    properties_orderedMember, Option.map_map,
    show Entries.names ∘ Entries.mapValues (fun _ => ordered) = Entries.names from
      funext fun es => Entries.names_mapValues _ es]
  split
  · exact Entries.mapValues_insertIfAbsent orderedMember _ _ level
  · rfl

/-! ## The pass repeated -/

theorem ordered_ordered (v : Value) : ordered (ordered v) = ordered v := by
  induction v using Value.levelInduction with
  | leaf v h => rw [ordered_of_object?_eq_none h, ordered_of_object?_eq_none h]
  | level level ih =>
    rw [ordered_object, ordered_object, orderedMember_stateOrder, stateOrder_stateOrder,
      Entries.mapValues_mapValues]
    congr 2
    apply Entries.mapValues_congr
    intro e he
    -- The pass goes through the values near this level only; that is what `ih` is about.
    have hnear := ih e he
    unfold orderedMember
    split
    · rw [Value.mapMembers_mapMembers]
      exact hnear.mapMembers_congr fun w hw => hw
    · split
      · exact hnear.self
      · rfl

end StructuredOutput.Gemini
