import StructuredOutput.Proofs.OpenAI.Strictify
import StructuredOutput.Proofs.Schema.Document

/-!
# Settled schemas

Schemas that are read from documents are of a narrower kind than schemas at large. A field
says nothing that its kind gives no meaning to, nested schemas are named after their field,
and what is hand-authored is what a reader cannot take apart. `Field.Settled` says this of
one field; the main statements are that it holds of every field of a schema that is read
from a document, and that making a schema strict keeps it.
-/

namespace StructuredOutput

open Json (Value)

/-- Whether a level describes items with fields of their own. -/
def Document.describesFields (level : Entries Value) : Bool :=
  Json.text? "type" level = some "object" && hasProperties level

/-- The shapes that are read for the object field `name` of a given description. -/
inductive Shape.Settled (name : String) (description : Option String) : Shape → Prop
  | declared (fields : Entries Field) (extra : Bool) :
    Settled name description
      (.schema ⟨name ++ "Object", description.getD "", fields, extra⟩)
  | closed : Settled name description .empty
  | values (level : Entries Value) : Settled name description (.map (.object level))
  | anything : Settled name description (.map (.boolean true))

/-- The items that are read for the array field `name`. -/
inductive Items.Settled (name : String) : Items → Prop
  | described (description : String) (fields : Entries Field) (extra : Bool)
    (h : description ≠ "") :
    Settled name (.schema ⟨name ++ "Item", description, fields, extra⟩)
  | fragment (level : Entries Value) (h : Document.describesFields level = false) :
    Settled name (.fragment (.object level))

/-- A field, under its name, of the kind that is read from documents. -/
structure Field.Settled (name : String) (f : Field) : Prop where
  description : f.attributes.description ≠ some ""
  default : f.attributes.default ≠ some .null
  minimum : f.attributes.minimum? = f.attributes.minimum
  maximum : f.attributes.maximum? = f.attributes.maximum
  shape_kind : f.attributes.kind ≠ .object → f.shape = none
  items_kind : f.attributes.kind ≠ .array → f.items = none
  shape : ∀ shape, f.shape = some shape → shape.Settled name f.attributes.description
  items : ∀ items, f.items = some items → items.Settled name

/-- Every field of a level is settled. -/
def SettledFields (fields : Entries Field) : Prop := ∀ e ∈ fields, e.2.Settled e.1

/-- Every field at every level is settled. -/
def Schema.Settled (s : Schema) : Prop := s.Holds SettledFields fun _ => True

/-! ## Schemas from documents -/

namespace Document

theorem description_ne_empty (required : Bool) (level : Entries Value) :
    (attributesOf required level).description ≠ some "" := by
  intro h
  have := (Option.filter_eq_some_iff.mp h).2
  simp at this

theorem default_ne_null (required : Bool) (level : Entries Value) :
    (attributesOf required level).default ≠ some .null := by
  intro h
  have := (Option.filter_eq_some_iff.mp h).2
  simp [Value.isNull] at this

theorem minimum?_attributesOf (required : Bool) (level : Entries Value) :
    (attributesOf required level).minimum? = (attributesOf required level).minimum := by
  by_cases h : (kindOf level).isNumeric <;> simp [attributesOf, Attributes.minimum?, h]

theorem maximum?_attributesOf (required : Bool) (level : Entries Value) :
    (attributesOf required level).maximum? = (attributesOf required level).maximum := by
  by_cases h : (kindOf level).isNumeric <;> simp [attributesOf, Attributes.maximum?, h]

/-- The description of a level, as its fields and its nested schema have it. -/
theorem textOrEmpty_description (required : Bool) (level : Entries Value) :
    textOrEmpty "description" level
      = (attributesOf required level).description.getD "" := by
  rw [textOrEmpty, attributesOf]
  cases Json.text? "description" level with
  | none => rfl
  | some d => by_cases hd : d = "" <;> simp [hd, Option.filter]

theorem shapeAt_settled (name : String) (required : Bool) {level : Entries Value}
    {fields : Entries Field} {shape : Shape} (h : shapeAt name level fields = some shape) :
    shape.Settled name (attributesOf required level).description := by
  unfold shapeAt at h
  split at h
  · cases h
    rw [schemaAt, textOrEmpty_description required]
    exact .declared fields _
  · split at h
    · cases h
    · cases h
      exact .closed
    · cases h
      exact .values _
    · cases h
      exact .anything

theorem itemsAt_settled (name : String) (level : Entries Value) (fields : Entries Field) :
    (itemsAt name level fields).Settled name := by
  unfold itemsAt
  split
  · refine .described _ _ _ ?_
    split
    · decide
    · rename_i h
      rintro he
      exact h (by rw [he]; rfl)
  · rename_i h
    exact .fragment level (by simpa [describesFields] using h)

theorem itemsOf_settled (name : String) (v : Value) : (itemsOf name v).Settled name := by
  cases v with
  | object level => exact itemsAt_settled name level _
  | _ => exact .fragment _ (by decide)

theorem unknownField_settled (name : String) (required : Bool) :
    (unknownField required).Settled name where
  description := description_ne_empty required []
  default := default_ne_null required []
  minimum := minimum?_attributesOf required []
  maximum := maximum?_attributesOf required []
  shape_kind _ := rfl
  items_kind _ := rfl
  shape _ h := nomatch h
  items _ h := nomatch h

theorem fieldOf_settled (name : String) (required : Bool) (definition : Value) :
    (fieldOf name required definition).Settled name := by
  cases definition with
  | object level =>
    refine ⟨description_ne_empty required level, default_ne_null required level,
      minimum?_attributesOf required level, maximum?_attributesOf required level,
      fun h => if_neg h, fun h => if_neg h, ?_, ?_⟩
    · intro shape hshape
      obtain ⟨-, hshape⟩ := Option.ite_none_right_eq_some.mp hshape
      exact shapeAt_settled name required hshape
    · intro items hitems
      obtain ⟨-, hitems⟩ := Option.ite_none_right_eq_some.mp hitems
      rw [itemsIn_eq] at hitems
      obtain ⟨v, -, rfl⟩ := Option.map_eq_some_iff.mp hitems
      exact itemsOf_settled name v
  | _ => exact unknownField_settled name required

theorem fieldsOfDefinitions_settled (required : List String)
    (definitions : Entries Value) :
    SettledFields (fieldsOfDefinitions required definitions) := by
  rw [fieldsOfDefinitions_eq]
  intro e he
  obtain ⟨d, -, rfl⟩ := Entries.mem_mapValues.mp he
  exact fieldOf_settled d.1 _ d.2

/-- Being required is read off the name. -/
theorem required_fieldOf (name : String) (required : Bool) (definition : Value) :
    (fieldOf name required definition).attributes.required = required := by
  cases definition <;> rfl

theorem fieldsOfDefinitions_flagsByName (required : List String)
    (definitions : Entries Value) :
    FlagsByName (fieldsOfDefinitions required definitions) := by
  rw [fieldsOfDefinitions_eq]
  intro e he d hd hname
  obtain ⟨e', -, rfl⟩ := Entries.mem_mapValues.mp he
  obtain ⟨d', -, rfl⟩ := Entries.mem_mapValues.mp hd
  rw [required_fieldOf, required_fieldOf, show e'.1 = d'.1 from hname]

theorem settled_ofDocument (d : Value) : (Schema.ofDocument d).Settled :=
  (carries_of_forall fieldsOfDefinitions_settled).holds_ofDocument trivial

theorem coherent_ofDocument (d : Value) : (Schema.ofDocument d).Coherent :=
  (carries_of_forall fieldsOfDefinitions_flagsByName).holds_ofDocument trivial

end Document

/-! ## Strict schemas -/

/-- Whether a level describes fields depends on its `type` and on whether it has
properties. -/
theorem Document.describesFields_congr {level kept : Entries Value}
    (ht : describesObject kept = describesObject level)
    (hp : (Json.object? "properties" kept).map Entries.names
      = (Json.object? "properties" level).map Entries.names) :
    describesFields kept = describesFields level := by
  have hhas : hasProperties kept = hasProperties level := by
    have h := congrArg Option.isSome hp
    rwa [Option.isSome_map, Option.isSome_map] at h
  have hsplit (l : Entries Value) :
      describesFields l = (describesObject l && hasProperties l) := by
    rw [describesFields, describesObject, beq_eq_decide]
  rw [hsplit, hsplit, ht, hhas]

namespace OpenAI

theorem describesFields_strictifyLevel (level : Entries Value) :
    Document.describesFields (strictifyLevel level) = Document.describesFields level :=
  Document.describesFields_congr (describesObject_strictifyLevel level)
    (propertyNames_strictifyLevel level)

theorem strictifyShape_settled {name : String} {description : Option String}
    {shape : Shape} (h : shape.Settled name description) {strict : Shape}
    (hs : strictifyShape (some shape) = some strict) :
    strict.Settled name description := by
  cases h with
  | declared fields extra =>
    cases hs
    exact .declared _ _
  | closed =>
    cases hs
    exact .closed
  | values level =>
    cases hs
    exact .values _
  | anything =>
    cases hs
    exact .anything

theorem strictifyItems_settled {name : String} {items : Items} (h : items.Settled name)
    {strict : Items} (hs : strictifyItems (some items) = some strict) :
    strict.Settled name := by
  cases h with
  | described description fields extra h =>
    cases hs
    exact .described _ _ _ h
  | fragment level h =>
    rw [strictifyItems, strictifyFragment_object] at hs
    cases hs
    exact .fragment _ ((describesFields_strictifyLevel level).trans h)

theorem strictifyField_settled {name : String} {f : Field} (h : f.Settled name) :
    (strictifyField f).Settled name := by
  obtain ⟨attributes, shape, items⟩ := f
  -- Defaults and bounds are gone; shape and items are strict where there were any.
  refine ⟨h.description, fun hd => (nomatch hd), ite_self none, ite_self none, ?_,
    ?_, ?_, ?_⟩
  · intro hkind
    have hnone : shape = none := h.shape_kind hkind
    rw [hnone]
    rfl
  · intro hkind
    have hnone : items = none := h.items_kind hkind
    rw [hnone]
    rfl
  · intro strict hs
    cases shape with
    | none => cases hs
    | some shape => exact strictifyShape_settled (h.shape shape rfl) hs
  · intro strict hs
    cases items with
    | none => cases hs
    | some items => exact strictifyItems_settled (h.items items rfl) hs

theorem settled_strictify {s : Schema} (h : s.Settled) : (strictify s).Settled := by
  refine holds_strictify ?_ (fun _ _ => trivial) h
  intro fields hfields e he
  rw [strictifyFields_eq] at he
  obtain ⟨d, hd, rfl⟩ := Entries.mem_mapValues.mp he
  exact strictifyField_settled (hfields d hd)

end OpenAI

end StructuredOutput
