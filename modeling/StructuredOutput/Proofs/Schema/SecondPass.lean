import StructuredOutput.Proofs.Gemini.StatedOrder
import StructuredOutput.Proofs.Schema.Agreement

/-!
# Documents under the passes for fragments

Two dialects rewrite fragments by a pass of their own, and write declared levels by the
recursion over schemas. Here the pass is applied to a whole compiled document. The main
statement is that it accepts what the recursion wrote: the Gemini pass changes nothing, and
the OpenAI pass adds to object fields without fields that they require nothing, which the
recursion leaves unsaid.
-/

namespace StructuredOutput

open Json (Value)

/-! ## Gemini -/

namespace Gemini

theorem orderedMember_of_mem_vocabulary {keyword : String}
    (h : keyword ∈ Attributes.vocabulary) (v : Value) : orderedMember keyword v = v := by
  have hp := Attributes.ne_of_mem_vocabulary h (show "properties" ∉ _ by decide)
  have hi := Attributes.ne_of_mem_vocabulary h (show "items" ∉ _ by decide)
  have ha := Attributes.ne_of_mem_vocabulary h (show "additionalProperties" ∉ _ by decide)
  simp [orderedMember, hp, hi, ha]

theorem stateOrder_of_lookup {level : Entries Value} {order : Value}
    (h : level.lookup "propertyOrdering" = some order) : stateOrder level = level := by
  unfold stateOrder
  split
  · exact Entries.insertIfAbsent_of_lookup h _
  · rfl

theorem stateOrder_of_no_properties {level : Entries Value}
    (h : level.lookup "properties" = none) : stateOrder level = level := by
  have hnone : Json.object? "properties" level = none := by
    rw [Json.object?, h]
    rfl
  rw [stateOrder, hnone]
  cases describesObject level <;> rfl

section

variable {properties : Entries Value}
  (h : properties.mapValues (fun _ => ordered) = properties)

include h

theorem ordered_standalone (required : List String) :
    ordered (rules.standalone required properties)
      = rules.standalone required properties := by
  have hlevel : (rules.standaloneLevel required properties).mapValues orderedMember
      = rules.standaloneLevel required properties := by
    have hproperties : orderedMember "properties" (.object properties)
        = .object properties :=
      congrArg Value.object h
    show _ :: ("properties", orderedMember "properties" (.object properties)) :: _ = _
    rw [hproperties]
    rfl
  show ordered (.object (rules.standaloneLevel required properties)) = _
  rw [ordered_object, hlevel, stateOrder_of_lookup]
  · rfl
  · rfl

theorem ordered_nestedLevel (a : Attributes) (required : List String) (extra : Bool) :
    stateOrder
        ((rules.fieldLevel a (rules.nested required properties extra)).mapValues
          orderedMember)
      = rules.fieldLevel a (rules.nested required properties extra) := by
  have hbody : (rules.nested required properties extra).mapValues orderedMember
      = rules.nested required properties extra := by
    have hproperties : orderedMember "properties" (.object properties)
        = .object properties :=
      congrArg Value.object h
    have hrequired : (nonemptyMember "required" (required.map Value.string)).mapValues
        orderedMember = nonemptyMember "required" (required.map Value.string) :=
      mapValues_nonemptyMember (fun _ => rfl) _
    rw [Rules.nested, List.cons_append, Entries.mapValues_cons, hproperties,
      Entries.mapValues_append, hrequired]
    rfl
  rw [Rules.mapValues_fieldLevel (fun _ h => orderedMember_of_mem_vocabulary h), hbody]
  exact stateOrder_of_lookup (lookup_order_nestedLevel a required properties extra)

end

/-- A level that has no properties states no order. -/
theorem ordered_fieldLevel (a : Attributes) {body : Entries Value}
    (hbody : body.mapValues orderedMember = body) (h : body.lookup "properties" = none) :
    stateOrder ((rules.fieldLevel a body).mapValues orderedMember)
      = rules.fieldLevel a body := by
  rw [Rules.mapValues_fieldLevel (fun _ h => orderedMember_of_mem_vocabulary h), hbody]
  apply stateOrder_of_no_properties
  rw [Rules.lookup_fieldLevel_of_not_mem (by decide), h]

-- The recursion of the compiler: the pass leaves each level as the rules wrote it.
mutual

theorem ordered_properties : ∀ fields : List (String × Field),
    (rules.properties fields).mapValues (fun _ => ordered) = rules.properties fields
  | [] => rfl
  | (name, f) :: rest => by
    rw [Rules.properties, Entries.mapValues_cons, ordered_field f, ordered_properties rest]
  termination_by structural fields => fields

theorem ordered_field : ∀ f : Field, ordered (rules.field f) = rules.field f
  | ⟨attributes, shape, items⟩ => by
    have hshape := ordered_shape shape attributes
    have hitems := ordered_items items attributes
    rw [rules.field_eq, ordered_object, Rules.body]
    congr 1
    cases hk : attributes.kind with
    | object => exact hshape
    | array => exact hitems
    | _ => exact ordered_fieldLevel attributes rfl rfl
  termination_by structural f => f

theorem ordered_shape : ∀ (shape : Option Shape) (a : Attributes),
    stateOrder ((rules.fieldLevel a (rules.shape shape)).mapValues orderedMember)
      = rules.fieldLevel a (rules.shape shape)
  | none, a => ordered_nestedLevel rfl a [] false
  | some (.schema ⟨_, _, fields, extra⟩), a =>
    ordered_nestedLevel (ordered_properties fields) a _ extra
  | some (.inline fields extra), a =>
    ordered_nestedLevel (ordered_properties fields) a _ extra
  | some (.map values), a => by
    have hvalues := congrArg (fun v => [("additionalProperties", v)])
      (ordered_ordered values)
    exact ordered_fieldLevel a hvalues rfl
  termination_by structural shape => shape

theorem ordered_items : ∀ (items : Option Items) (a : Attributes),
    stateOrder ((rules.fieldLevel a (rules.items items)).mapValues orderedMember)
      = rules.fieldLevel a (rules.items items)
  | none, a => ordered_fieldLevel a rfl rfl
  | some (.schema ⟨_, _, fields, _⟩), a => by
    have hitem := ordered_standalone (ordered_properties fields)
      (Schema.namesWhere rules.demands fields)
    exact ordered_fieldLevel a (congrArg (fun v => [("items", v)]) hitem) rfl
  | some (.fragment fragment), a =>
    ordered_fieldLevel a (congrArg (fun v => [("items", v)]) (ordered_ordered fragment))
      rfl
  termination_by structural items => items

end

/-- The pass changes nothing in a compiled document. -/
theorem ordered_compile (s : Schema) :
    ordered (Provider.gemini.compile s) = Provider.gemini.compile s :=
  ordered_standalone (ordered_properties s.fields) _

end Gemini

/-! ## OpenAI -/

namespace OpenAI

/-- An object field without fields says that it requires nothing, at the end of its
level. -/
def spellOutRequired (place : Place) (level : Entries Value) : Entries Value :=
  match place, Json.object? "properties" level with
  | .nested _, some [] => level ++ [("required", .texts [])]
  | _, _ => level

theorem strictMember_of_mem_vocabulary {isObject : Bool} {keyword : String}
    (h : keyword ∈ Attributes.vocabulary) (v : Value) :
    strictMember isObject keyword v = v := by
  have hp := Attributes.ne_of_mem_vocabulary h (show "properties" ∉ _ by decide)
  have hi := Attributes.ne_of_mem_vocabulary h (show "items" ∉ _ by decide)
  have ha := Attributes.ne_of_mem_vocabulary h (show "additionalProperties" ∉ _ by decide)
  simp [strictMember, hp, hi, ha]

theorem strict_of_strictifyFragment (fragment : Value) :
    strict (strictifyFragment fragment) = strictifyFragment fragment := by
  rw [strictifyFragment, ← withoutBounds_strict, strict_strict]

section

variable {a : Attributes} (hkind : a.kind = .object) (properties : Entries Value)

theorem mapValues_nested (required : List String) (extra : Bool) :
    (Ollama.rules.nested required properties extra).mapValues (strictMember true)
      = Ollama.rules.nested required (properties.mapValues fun _ => strict) extra := by
  have hrequired : (nonemptyMember "required" (required.map Value.string)).mapValues
      (strictMember true) = nonemptyMember "required" (required.map Value.string) :=
    mapValues_nonemptyMember (fun _ => rfl) _
  rw [Rules.nested, List.cons_append, Entries.mapValues_cons,
    Entries.mapValues_append, hrequired]
  rfl

include hkind

theorem describesObject_nestedLevel : describesObject
    (Ollama.rules.fieldLevel a
      (Ollama.rules.nested properties.names properties false)) := by
  rw [Rules.describesObject_fieldLevel a fun _ h =>
    Ollama.keeps.lookup_nested_of_mem_vocabulary h properties.names properties false]
  exact decide_eq_true hkind

theorem tighten_nestedLevel (extra : Bool) :
    tighten
        (Ollama.rules.fieldLevel a (Ollama.rules.nested properties.names properties false))
      = spellOutRequired (.nested extra)
        (Ollama.rules.fieldLevel a
          (Ollama.rules.nested properties.names properties false)) := by
  have hobject := describesObject_nestedLevel hkind properties
  have hfinds : Rules.SaysNested (Ollama.rules.fieldLevel a
      (Ollama.rules.nested properties.names properties false)) properties.names
      properties false :=
    Ollama.keeps.saysNested fun _ h => Rules.lookup_fieldLevel_of_not_mem h a _
  have hproperties := Rules.SaysNested.object?_properties hfinds
  unfold spellOutRequired
  rw [hproperties]
  cases properties with
  | nil =>
    rw [tighten_of_properties hobject hproperties,
      Entries.insert_of_lookup_eq_none (hfinds.required.trans (if_pos rfl)),
      Entries.insert_of_lookup (by rw [Entries.lookup_append, hfinds.extra]; rfl)]
    rfl
  | cons e rest =>
    have hrequired := hfinds.required.trans (if_neg (List.cons_ne_nil _ _))
    exact tighten_of_lookups hobject hproperties hrequired hfinds.extra

end

section

variable {f : Entries Value → Entries Value} {properties : Entries Value}
  (h : properties.mapValues (fun _ => strict) = f properties)

include h

theorem names_of_mapValues_strict : (f properties).names = properties.names := by
  rw [← h, Entries.names_mapValues]

/-- The pass rewrites the properties of an object on its own. -/
theorem strict_standaloneLevel :
    strict (.object (Ollama.rules.standaloneLevel properties.names properties))
      = .object (spellOutRequired .standalone
        (withProperties f (Ollama.rules.standaloneLevel properties.names
          properties))) := by
  have hnames := names_of_mapValues_strict h
  have hlevel : (Ollama.rules.standaloneLevel properties.names properties).mapValues
        (strictMember true)
      = Ollama.rules.standaloneLevel properties.names (f properties) := by
    rw [← h]
    rfl
  have htight : tighten (Ollama.rules.standaloneLevel properties.names (f properties))
      = Ollama.rules.standaloneLevel properties.names (f properties) := by
    rw [← hnames]
    exact tighten_of_lookups rfl rfl rfl rfl
  show _ = Value.object (withProperties f _)
  rw [Ollama.keeps.withProperties_standaloneLevel hnames, strict_object,
    show describesObject (Ollama.rules.standaloneLevel properties.names properties)
        = true from rfl,
    hlevel, htight]

/-- The pass rewrites the properties of an object field, and says that it requires nothing
if it has none. -/
theorem strict_nestedLevel {a : Attributes} (hkind : a.kind = .object) (extra : Bool) :
    strict (.object
        (Ollama.rules.fieldLevel a
          (Ollama.rules.nested properties.names properties false)))
      = .object (spellOutRequired (.nested extra) (withProperties f
        (Ollama.rules.fieldLevel a
          (Ollama.rules.nested properties.names properties false)))) := by
  have hnames := names_of_mapValues_strict h
  have hobject := describesObject_nestedLevel hkind properties
  rw [strict_object, hobject,
    Rules.mapValues_fieldLevel fun _ h => strictMember_of_mem_vocabulary h,
    mapValues_nested, h,
    Ollama.keeps.withProperties_nestedLevel hnames, ← hnames,
    tighten_nestedLevel hkind (f properties) extra]

end

/-- The pass changes nothing in a level that describes no object, but in its items. -/
theorem strict_fieldLevel_of_kind_ne {a : Attributes} (hkind : a.kind ≠ .object)
    {body : Entries Value}
    (hbody : ∀ keyword ∈ Attributes.vocabulary, body.lookup keyword = none) :
    strict (.object (Ollama.rules.fieldLevel a body))
      = .object (Ollama.rules.fieldLevel a (body.mapValues (strictMember false))) := by
  have hnot : describesObject (Ollama.rules.fieldLevel a body) = false := by
    rw [Rules.describesObject_fieldLevel a hbody]
    exact decide_eq_false hkind
  have hmapped : describesObject
      ((Ollama.rules.fieldLevel a body).mapValues (strictMember false)) = false := by
    rw [(transparent_strictMember false).describesObject, hnot]
  rw [strict_object, hnot, tighten_of_not_describesObject hmapped,
    Rules.mapValues_fieldLevel fun _ h => strictMember_of_mem_vocabulary h]

/-- Nothing is added to a map, which says something of other names. -/
theorem strict_mapLevel {a : Attributes} (hkind : a.kind = .object) (values : Value) :
    strict (.object (Ollama.rules.fieldLevel a
        [("additionalProperties", strictifyFragment values)]))
      = .object (Ollama.rules.fieldLevel a
        [("additionalProperties", strictifyFragment values)]) := by
  have hbody : ∀ keyword ∈ Attributes.vocabulary,
      List.lookup keyword [("additionalProperties", strictifyFragment values)] = none :=
    fun _ h => Ollama.keeps.lookup_shape_of_mem_vocabulary h
      (some (.map (strictifyFragment values)))
  have hobject : describesObject
      (Ollama.rules.fieldLevel a
        [("additionalProperties", strictifyFragment values)]) := by
    rw [Rules.describesObject_fieldLevel a hbody]
    exact decide_eq_true hkind
  have hvalues : Entries.mapValues (strictMember true)
      [("additionalProperties", strictifyFragment values)]
      = [("additionalProperties", strictifyFragment values)] :=
    congrArg (fun v => [("additionalProperties", v)]) (strict_of_strictifyFragment values)
  have hproperties : Json.object? "properties" (Ollama.rules.fieldLevel a
      [("additionalProperties", strictifyFragment values)]) = none := by
    rw [Json.object?, Rules.lookup_fieldLevel_of_not_mem (by decide)]
    rfl
  have hextra : (Ollama.rules.fieldLevel a
        [("additionalProperties", strictifyFragment values)]).lookup "additionalProperties"
      = some (strictifyFragment values) :=
    Rules.lookup_fieldLevel_of_not_mem (by decide) a _
  rw [strict_object, hobject,
    Rules.mapValues_fieldLevel fun _ h => strictMember_of_mem_vocabulary h, hvalues,
    tighten_of_no_properties hobject hproperties, Entries.insertIfAbsent_of_lookup hextra]

-- The recursion of the compiler over a strictified schema, under the pass for fragments.
mutual

theorem strict_typedProperties : ∀ fields : List (String × Field),
    (Ollama.rules.properties (strictifyFields fields)).mapValues (fun _ => strict)
      = rewriteProperties spellOutRequired fields
        (Ollama.rules.properties (strictifyFields fields))
  | [] => rfl
  | (name, f) :: rest => by
    rw [strictifyFields, Rules.properties, Rules.field_eq, Entries.mapValues_cons,
      strict_typedField f, strict_typedProperties rest, rewriteProperties, Value.mapLevel]
  termination_by structural fields => fields

theorem strict_typedField : ∀ f : Field,
    strict (.object (Ollama.rules.fieldLevel (strictifyField f).attributes
        (Ollama.rules.body (strictifyField f))))
      = .object (rewriteDefinition spellOutRequired f (Ollama.rules.fieldLevel
        (strictifyField f).attributes (Ollama.rules.body (strictifyField f))))
  | ⟨attributes, shape, items⟩ => by
    have hshape := strict_typedShape shape (strictifyAttributes attributes)
    have hitems := strict_typedItems items (strictifyAttributes attributes)
    have hkind : (strictifyAttributes attributes).kind = attributes.kind := rfl
    rw [strictifyField, rewriteDefinition, Rules.body, hkind]
    cases hk : attributes.kind with
    | object => exact hshape (hkind.trans hk)
    | array =>
      refine hitems ?_
      rw [hkind, hk]
      nofun
    | _ =>
      refine strict_fieldLevel_of_kind_ne ?_ fun _ _ => rfl
      rw [hkind, hk]
      nofun
  termination_by structural f => f

theorem strict_typedShape : ∀ (shape : Option Shape) (a : Attributes), a.kind = .object →
    strict
        (.object (Ollama.rules.fieldLevel a (Ollama.rules.shape (strictifyShape shape))))
      = .object (rewriteNested spellOutRequired shape
        (Ollama.rules.fieldLevel a (Ollama.rules.shape (strictifyShape shape))))
  | none, a, hkind => by
    have hempty : Entries.mapValues (fun _ => strict) [] = id ([] : Entries Value) := rfl
    have hlevel := strict_nestedLevel hempty hkind false
    rw [Ollama.keeps.withProperties_nestedLevel rfl] at hlevel
    exact hlevel
  | some (.schema ⟨_, _, fields, extra⟩), a, hkind => by
    rw [strictifyShape, Rules.shape, namesWhere_eq_names_properties]
    exact strict_nestedLevel (strict_typedProperties fields) hkind extra
  | some (.inline fields extra), a, hkind => by
    rw [strictifyShape, Rules.shape, namesWhere_eq_names_properties]
    exact strict_nestedLevel (strict_typedProperties fields) hkind extra
  | some (.map values), a, hkind => strict_mapLevel hkind values
  termination_by structural shape => shape

theorem strict_typedItems : ∀ (items : Option Items) (a : Attributes), a.kind ≠ .object →
    strict
        (.object (Ollama.rules.fieldLevel a (Ollama.rules.items (strictifyItems items))))
      = .object (rewriteItems spellOutRequired items
        (Ollama.rules.fieldLevel a (Ollama.rules.items (strictifyItems items))))
  | none, a, hkind => strict_fieldLevel_of_kind_ne hkind fun _ _ => rfl
  | some (.schema ⟨_, _, fields, _⟩), a, hkind => by
    have hitem := strict_standaloneLevel (strict_typedProperties fields)
    rw [strictifyItems, strict_fieldLevel_of_kind_ne hkind fun _ h =>
        Rules.lookup_items_of_mem_vocabulary h _, rewriteItems,
      Rules.adjust_fieldLevel (by decide), Rules.items, namesWhere_eq_names_properties]
    exact congrArg (fun v => Value.object (Ollama.rules.fieldLevel a [("items", v)])) hitem
  | some (.fragment fragment), a, hkind => by
    have hitem := strict_of_strictifyFragment fragment
    rw [strictifyItems, strict_fieldLevel_of_kind_ne hkind fun _ h =>
      Rules.lookup_items_of_mem_vocabulary h _]
    exact congrArg (fun v => Value.object (Ollama.rules.fieldLevel a [("items", v)])) hitem
  termination_by structural items => items

end

/-- The pass adds what the recursion leaves unsaid, and changes nothing else. -/
theorem strict_compile (s : Schema) :
    strict (Provider.openAI.compile s)
      = s.rewriteLevels spellOutRequired (Provider.openAI.compile s) := by
  have hdocument : Provider.openAI.compile s = .object (Ollama.rules.standaloneLevel
      (Ollama.rules.properties (strictifyFields s.fields)).names
      (Ollama.rules.properties (strictifyFields s.fields))) := by
    rw [← namesWhere_eq_names_properties]
    exact (rules_compile s).trans (Ollama.keeps.compile_eq (strictify s))
  rw [hdocument]
  exact strict_standaloneLevel (strict_typedProperties s.fields)

end OpenAI

/-! ## Both dialects -/

/-- The passes for fragments accept compiled documents: the one changes nothing, the other
spells out what is not required, and no bound is left to be cleaned away, before or
after. -/
theorem Provider.compile_under_passes (s : Schema) :
    Gemini.ordered (gemini.compile s) = gemini.compile s
      ∧ OpenAI.strict (openAI.compile s)
        = s.rewriteLevels OpenAI.spellOutRequired (openAI.compile s)
      ∧ OpenAI.withoutBounds (openAI.compile s) = openAI.compile s
      ∧ OpenAI.withoutBounds (OpenAI.strict (openAI.compile s))
        = OpenAI.strict (openAI.compile s) := by
  have hclean : OpenAI.withoutBounds (openAI.compile s) = openAI.compile s :=
    OpenAI.withoutBounds_withoutBounds _
  refine ⟨Gemini.ordered_compile s, OpenAI.strict_compile s, hclean, ?_⟩
  rw [OpenAI.withoutBounds_strict, hclean]

/-- An object field without fields, next to a map. -/
def openEnded : Schema where
  name := "OpenEnded"
  description := ""
  fields := [
    ("extra", ⟨{ kind := .object }, none, none⟩),
    ("labels", ⟨{ kind := .object }, some (.map (.object [("type", .string "string")])),
      none⟩)]
  allowsExtra := false

example :
    OpenAI.strict (Provider.openAI.compile openEnded) = .object [
      ("type", .string "object"),
      ("properties", .object [
        ("extra", .object [
          ("type", .string "object"),
          ("properties", .object []),
          ("additionalProperties", .boolean false),
          ("required", .array [])]),
        ("labels", .object [
          ("type", .string "object"),
          ("additionalProperties", .object [("type", .string "string")])])]),
      ("required", .texts ["extra", "labels"]),
      ("additionalProperties", .boolean false)] := rfl

end StructuredOutput
