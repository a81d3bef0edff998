import StructuredOutput.Proofs.Gemini.Order
import StructuredOutput.Proofs.Json.Walk
import StructuredOutput.Proofs.Schema.Declared

/-!
# Orders in documents

Which levels of a Gemini document state the order of their properties, without the pass
that puts the orders there: the declared levels, and in fragments those that `ordering`
walks to. The main statement is that each of them has the order of its properties under
`propertyOrdering`, but where a fragment came with one, and that nothing else is done to a
fragment.
-/

namespace StructuredOutput.Gemini

open Json (Below Value Walk)

/-! ## Fragments -/

/-- The levels of a fragment that state orders: properties, items, what is said of other
names. -/
def ordering : Walk := fun keyword =>
  if keyword = "properties" then .members
  else if keyword = "items" || keyword = "additionalProperties" then .value
  else .nowhere

/-- Whether an address is that of the order of a level, and the fragment does not state
it. -/
def isUnstatedOrder (fragment : Value) (address : Json.Address) : Bool :=
  ordering.lacks (· == "propertyOrdering") fragment address

theorem orderedMember_eq (keyword : String) (v : Value) :
    orderedMember keyword v = (ordering keyword).rewrite ordered v := by
  unfold orderedMember ordering
  split
  · rfl
  · split
    · rfl
    · rfl

theorem mapValues_orderedMember (level : Entries Value) :
    level.mapValues orderedMember
      = level.mapValues fun keyword => (ordering keyword).rewrite ordered :=
  Entries.mapValues_congr fun e _ => orderedMember_eq e.1 e.2

theorem ordered_extends : ordering.Extends (· == "propertyOrdering") ordered where
  leaf _ h := ordered_of_object?_eq_none h
  level level := by
    have hlevel := mapValues_orderedMember level
    rw [ordered_object, stateOrder_eq]
    split
    · rename_i names _ _
      rw [Entries.insertIfAbsent]
      split
      · exact ⟨[], by rw [hlevel, List.append_nil], List.forall_mem_nil _⟩
      · rename_i habsent
        refine ⟨[("propertyOrdering", .texts names)], by rw [hlevel], fun e he => ?_⟩
        rw [Entries.lookup_mapValues, Option.isSome_map] at habsent
        rw [List.mem_singleton.mp he]
        exact ⟨rfl, Option.not_isSome_iff_eq_none.mp habsent⟩
    · exact ⟨[], by rw [hlevel, List.append_nil], List.forall_mem_nil _⟩
  nowhere keyword h := by
    rw [show keyword = "propertyOrdering" by simpa using h]
    rfl

theorem eq_ordered_of_object {v : Value} {level : Entries Value}
    (h : ordered v = .object level) :
    ∃ source : Entries Value, v = .object source
      ∧ level = stateOrder (source.mapValues orderedMember) := by
  cases v with
  | object source =>
    rw [ordered_object] at h
    injection h with h
    exact ⟨source, rfl, h.symm⟩
  | _ => cases h

/-- A level with properties has an order: the one that stood there before, or that of its
properties. -/
theorem lookup_order_stateOrder {level properties : Entries Value}
    (hobject : describesObject level)
    (hproperties : Json.object? "properties" level = some properties) :
    (stateOrder level).lookup "propertyOrdering"
      = some ((level.lookup "propertyOrdering").getD (.texts properties.names)) := by
  rw [stateOrder, hobject, hproperties]
  exact Entries.lookup_insertIfAbsent_self _ _ level

/-- The order that a level of a fragment states after the pass. -/
theorem order_of_reaches {address : Json.Address} (haddress : ordering.reaches address)
    {fragment : Value} {level properties : Entries Value}
    (hlevel : (ordered fragment).at? address = some (.object level))
    (hobject : describesObject level)
    (hproperties : Json.object? "properties" level = some properties) :
    level.lookup "propertyOrdering"
      = some ((fragment.at? (address ++ [.member "propertyOrdering"])).getD
        (.texts properties.names)) := by
  rw [ordered_extends.follows.at?_of_reaches haddress] at hlevel
  obtain ⟨v, hv, hordered⟩ := Option.map_eq_some_iff.mp hlevel
  obtain ⟨source, rfl, rfl⟩ := eq_ordered_of_object hordered
  rw [describesObject_stateOrder] at hobject
  rw [properties_stateOrder] at hproperties
  rw [lookup_order_stateOrder hobject hproperties, Value.at?_append, hv, Option.bind_some,
    Value.at?_member, Entries.lookup_mapValues,
    show orderedMember "propertyOrdering" = id from rfl, Option.map_id]
  rfl

/-! ## Declared levels -/

/-- The level has properties and states their order. -/
def StatesOrder (_ : Place) (level : Entries Value) : Prop :=
  ∃ properties, Json.object? "properties" level = some properties
    ∧ level.lookup "propertyOrdering" = some (.texts properties.names)

theorem lookup_order_nestedLevel (a : Attributes) (required : List String)
    (properties : Entries Value) (extra : Bool) :
    (rules.fieldLevel a (rules.nested required properties extra)).lookup "propertyOrdering"
      = some (.texts properties.names) := by
  rw [Rules.lookup_fieldLevel_of_not_mem (by decide), Rules.nested, List.cons_append,
    Entries.lookup_cons, Entries.lookup_append, lookup_nonemptyMember]
  rfl

theorem rules_write_orders : rules.Writes StatesOrder where
  standalone required properties := ⟨properties, rfl, rfl⟩
  nested a required properties extra := by
    have hproperties := keeps.properties_nestedLevel a required properties extra
    exact ⟨properties, by rw [Json.object?, hproperties]; rfl,
      lookup_order_nestedLevel a required properties extra⟩

/-- Every declared level of a document states the order of its properties. In a fragment,
so does every level that describes an object with properties; an order that was stated
stands, and the pass over fragments adds the others and nothing else. -/
theorem orders_stated (s : Schema) (fragment : Value) :
    s.LevelsHold StatesOrder (Provider.gemini.compile s)
      ∧ (∀ address level properties, ordering.reaches address →
        (ordered fragment).at? address = some (.object level) → describesObject level →
        Json.object? "properties" level = some properties →
        level.lookup "propertyOrdering"
          = some ((fragment.at? (address ++ [.member "propertyOrdering"])).getD
            (.texts properties.names)))
      ∧ (fragment.Distinct →
        (ordered fragment).prune (isUnstatedOrder fragment) = fragment)
      ∧ ordered (ordered fragment) = ordered fragment := by
  refine ⟨keeps.levelsHold rules_write_orders s, ?_, ?_, ordered_ordered fragment⟩
  · intro address level properties haddress hlevel hobject hproperties
    exact order_of_reaches haddress hlevel hobject hproperties
  · exact fun hdistinct => ordered_extends.prune_lacks hdistinct

/-- What is said of the translations of a sentence: an object without an order, with a
property that states its own. -/
def translation : Value := .object [
  ("type", .string "object"),
  ("properties", .object [
    ("text", .object [("type", .string "string")]),
    ("audio", .object [
      ("type", .string "object"),
      ("properties", .object [("url", .object []), ("length", .object [])]),
      ("propertyOrdering", .texts ["length", "url"])])])]

theorem distinct_translation : translation.Distinct := by
  simp [translation, Value.Distinct, Value.DistinctMembers, Value.texts,
    Value.DistinctItems]

/-- The object states the order of its properties now, the property still its own. -/
theorem orders_of_translation : ∃ level audio : Entries Value,
    (ordered translation).at? [] = some (.object level)
      ∧ level.lookup "propertyOrdering" = some (.texts ["text", "audio"])
      ∧ (ordered translation).at? [.member "properties", .member "audio"]
        = some (.object audio)
      ∧ audio.lookup "propertyOrdering" = some (.texts ["length", "url"])
      ∧ (ordered translation).prune (isUnstatedOrder translation) = translation := by
  obtain ⟨-, horder, hprune, -⟩ := orders_stated .default translation
  have hlevel := horder [] _ _ rfl rfl rfl rfl
  have haudio := horder [.member "properties", .member "audio"] _ _ rfl rfl rfl rfl
  exact ⟨_, _, rfl, hlevel, rfl, haudio, hprune distinct_translation⟩

end StructuredOutput.Gemini
