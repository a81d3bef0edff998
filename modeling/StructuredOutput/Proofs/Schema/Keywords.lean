import StructuredOutput.Proofs.Schema.SourceLevels

/-!
# Keywords that count

A document may say much that no schema has a place for, and it may say it in any order.
Which keywords count depends on where they stand: the document, a property, or items with
fields of their own; and of a property also on its kind. `Document.Matches` relates
documents that agree on the keywords that count, at every level that is read as a
declaration. What else these levels hold, the order of their keywords, and the order of the
names they require may differ. The main statement is that matching documents describe the
same schema, with its fields in the same order.
-/

namespace StructuredOutput

open Json (Value)

/-- Entries that are the same up to order, once those are left out that do not count, agree
on what counts. -/
theorem Entries.lookup_eq_of_perm {α : Type} {keep : String → Bool} {es fs : Entries α}
    (hes : es.names.Nodup) (h : (es.keepNames keep).Perm (fs.keepNames keep))
    {name : String} (hname : keep name) : es.lookup name = fs.lookup name := by
  have hnodup : (es.keepNames keep).names.Nodup :=
    hes.sublist (List.filter_sublist.map Prod.fst)
  have hnodup' : (fs.keepNames keep).names.Nodup := (h.map Prod.fst).nodup_iff.mp hnodup
  rw [← lookup_keepNames hname es, ← lookup_keepNames hname fs]
  cases hv : (es.keepNames keep).lookup name with
  | some v => exact (lookup_of_mem hnodup' (h.mem_iff.mp (mem_of_lookup hv))).symm
  | none =>
    symm
    rw [lookup_eq_none_iff] at hv ⊢
    exact fun e he => hv e (h.mem_iff.mpr he)

namespace Document

/-! ## Levels that match -/

/-- The keywords that count for every property of a kind. -/
def plainKeywords (kind : Kind) : List String :=
  ["type", "description", "enum", "default"]
    ++ if kind.isNumeric then ["minimum", "maximum"] else []

/-- Lists under `required` that have the same entries, in any order and number; what is no
list is the same. -/
inductive RequiredMatch : Option Value → Option Value → Prop
  | same (v : Option Value) : RequiredMatch v v
  | entries {vs ws : List Value} (h : ∀ v, v ∈ vs ↔ v ∈ ws) :
    RequiredMatch (some (.array vs)) (some (.array ws))

mutual

/-- Levels that declare the same fields. Of those without properties it does not matter
what they require. -/
inductive LevelsMatch : Entries Value → Entries Value → Prop
  | mk {a b : Entries Value}
    (description : a.lookup "description" = b.lookup "description")
    (extra : a.lookup "additionalProperties" = b.lookup "additionalProperties")
    (required : hasProperties a →
      RequiredMatch (a.lookup "required") (b.lookup "required"))
    (properties : PropertiesMatch (a.lookup "properties") (b.lookup "properties")) :
    LevelsMatch a b

/-- Objects under `properties` with matching definitions; anything else is the same. -/
inductive PropertiesMatch : Option Value → Option Value → Prop
  | same (v : Option Value) : PropertiesMatch v v
  | definitions {ds es : List (String × Value)} (h : DefinitionsMatch ds es) :
    PropertiesMatch (some (.object ds)) (some (.object es))

/-- Definitions of the same names in the same order, each matching the other. -/
inductive DefinitionsMatch : List (String × Value) → List (String × Value) → Prop
  | nil : DefinitionsMatch [] []
  | cons (name : String) {v w : Value} {ds es : List (String × Value)}
    (definition : DefinitionMatches v w) (rest : DefinitionsMatch ds es) :
    DefinitionsMatch ((name, v) :: ds) ((name, w) :: es)

/-- Definitions that say the same of a property. What is said of fields counts for objects
only, and what is said of items for arrays. -/
inductive DefinitionMatches : Value → Value → Prop
  | same (v : Value) : DefinitionMatches v v
  | level {a b : Entries Value}
    (plain : ∀ keyword ∈ plainKeywords (kindOf a), a.lookup keyword = b.lookup keyword)
    (fields : kindOf a = .object → LevelsMatch a b)
    (items : kindOf a = .array → ItemsMatch (a.lookup "items") (b.lookup "items")) :
    DefinitionMatches (.object a) (.object b)

/-- Items that match if they have fields of their own; any others are the same. -/
inductive ItemsMatch : Option Value → Option Value → Prop
  | same (v : Option Value) : ItemsMatch v v
  | fields {a b : Entries Value} (type : a.lookup "type" = b.lookup "type")
    (declares : describesFields a) (fields : LevelsMatch a b) :
    ItemsMatch (some (.object a)) (some (.object b))

end

/-- Documents that match: they have the same name and declare the same fields. Under `name`
something counts only if there is no title. -/
inductive Matches : Value → Value → Prop
  | same (v : Value) : Matches v v
  | level {a b : Entries Value} (title : a.lookup "title" = b.lookup "title")
    (name : Json.text? "title" a = none → a.lookup "name" = b.lookup "name")
    (fields : LevelsMatch a b) : Matches (.object a) (.object b)

/-- The keywords that count for every property of a kind may stand in any order, and among
others. -/
theorem plain_of_perm {a b : Entries Value} (ha : a.names.Nodup)
    (h : (a.keepNames (· ∈ plainKeywords (kindOf a))).Perm
      (b.keepNames (· ∈ plainKeywords (kindOf a)))) :
    ∀ keyword ∈ plainKeywords (kindOf a), a.lookup keyword = b.lookup keyword :=
  fun _ hkeyword => Entries.lookup_eq_of_perm ha h (decide_eq_true hkeyword)

/-! ## What is read of them -/

theorem RequiredMatch.contains_eq {a b : Entries Value}
    (h : RequiredMatch (a.lookup "required") (b.lookup "required")) (name : String) :
    (requiredNames a).contains name = (requiredNames b).contains name := by
  rw [contains_requiredNames, contains_requiredNames, lists, lists]
  generalize a.lookup "required" = v at h
  generalize b.lookup "required" = w at h
  cases h with
  | same => rfl
  | entries h =>
    rw [Bool.eq_iff_iff, List.any_eq_true, List.any_eq_true]
    simp only [h]

theorem PropertiesMatch.isSome_eq {v w : Option Value} (h : PropertiesMatch v w) :
    (v.bind Value.object?).isSome = (w.bind Value.object?).isSome := by
  cases h <;> rfl

theorem LevelsMatch.hasProperties_eq {a b : Entries Value} (h : LevelsMatch a b) :
    hasProperties a = hasProperties b := by
  cases h with
  | mk _ _ _ properties => exact properties.isSome_eq

theorem LevelsMatch.allowsExtra_eq {a b : Entries Value} (h : LevelsMatch a b) :
    allowsExtra a = allowsExtra b := by
  cases h with
  | mk _ extra _ _ => rw [allowsExtra, allowsExtra, extra]

theorem LevelsMatch.text?_description_eq {a b : Entries Value} (h : LevelsMatch a b) :
    Json.text? "description" a = Json.text? "description" b := by
  cases h with
  | mk description _ _ _ => rw [Json.text?, Json.text?, description]

/-- Matching levels with the same fields are the same schema. -/
theorem LevelsMatch.schemaAt_eq {a b : Entries Value} (h : LevelsMatch a b) (name : String)
    (fields : Entries Field) : schemaAt name a fields = schemaAt name b fields := by
  rw [schemaAt, schemaAt, textOrEmpty, textOrEmpty, h.text?_description_eq,
    h.allowsExtra_eq]

theorem LevelsMatch.shapeAt_eq {a b : Entries Value} (h : LevelsMatch a b) (name : String)
    (fields : Entries Field) : shapeAt name a fields = shapeAt name b fields := by
  rw [shapeAt, shapeAt, h.hasProperties_eq, h.schemaAt_eq]
  cases h with
  | mk _ extra _ _ => rw [extra]

theorem kindOf_eq {a b : Entries Value} (h : a.lookup "type" = b.lookup "type") :
    kindOf a = kindOf b := by
  rw [kindOf, kindOf, Json.text?, Json.text?, h]

/-- The attributes of a property are read from the keywords that count for its kind. -/
theorem attributesOf_eq {a b : Entries Value}
    (h : ∀ keyword ∈ plainKeywords (kindOf a), a.lookup keyword = b.lookup keyword)
    (required : Bool) : attributesOf required a = attributesOf required b := by
  have hplain : ∀ keyword ∈ ["type", "description", "enum", "default"],
      a.lookup keyword = b.lookup keyword :=
    fun keyword hk => h keyword (List.mem_append_left _ hk)
  have hbound : (kindOf a).isNumeric → ∀ keyword ∈ ["minimum", "maximum"],
      bound keyword a = bound keyword b := by
    intro hnumeric keyword hk
    have hmem : keyword ∈ plainKeywords (kindOf a) := by
      rw [plainKeywords, if_pos hnumeric]
      exact List.mem_append_right _ hk
    rw [bound, bound, h keyword hmem]
  rw [attributesOf, attributesOf, ← kindOf_eq (hplain "type" (by decide)), Json.text?,
    Json.text?, hplain "description" (by decide), hplain "enum" (by decide),
    hplain "default" (by decide)]
  congr 1
  · exact ite_congr rfl (fun hnumeric => hbound hnumeric "minimum" (by decide))
      fun _ => rfl
  · exact ite_congr rfl (fun hnumeric => hbound hnumeric "maximum" (by decide))
      fun _ => rfl

/-- The fields that are declared under `properties`. -/
def fieldsUnder (required : List String) (v : Option Value) : Entries Field :=
  match v.bind Value.object? with
  | some definitions => fieldsOfDefinitions required definitions
  | none => []

theorem fieldsOfDefinitions_congr {required required' : List String}
    (h : ∀ name, required.contains name = required'.contains name)
    (definitions : Entries Value) :
    fieldsOfDefinitions required definitions
      = fieldsOfDefinitions required' definitions := by
  rw [fieldsOfDefinitions_eq, fieldsOfDefinitions_eq]
  exact Entries.mapValues_congr fun e _ => by rw [h]

-- By recursion on what makes the documents match, which follows the recursion of the
-- reader.
mutual

theorem levels_match : ∀ {a b : Entries Value}, LevelsMatch a b →
    fieldsOf (requiredNames a) a = fieldsOf (requiredNames b) b
  | a, b, .mk _ _ required properties => by
    have hfields := properties_match properties (requiredNames a) (requiredNames b)
      fun h => (required h).contains_eq
    rw [fieldsOf_eq, fieldsOf_eq]
    exact hfields
  termination_by structural _ _ h => h

theorem properties_match : ∀ {v w : Option Value}, PropertiesMatch v w →
    ∀ required required' : List String,
    ((v.bind Value.object?).isSome →
      ∀ name, required.contains name = required'.contains name) →
    fieldsUnder required v = fieldsUnder required' w
  | _, _, .same v, required, required', h => by
    unfold fieldsUnder
    split
    · rename_i definitions hd
      exact fieldsOfDefinitions_congr (h (by rw [hd]; rfl)) definitions
    · rfl
  | _, _, .definitions definitions, required, required', h =>
    definitions_match definitions required required' (h rfl)
  termination_by structural _ _ h => h

theorem definitions_match : ∀ {ds es : List (String × Value)}, DefinitionsMatch ds es →
    ∀ required required' : List String,
    (∀ name, required.contains name = required'.contains name) →
    fieldsOfDefinitions required ds = fieldsOfDefinitions required' es
  | _, _, .nil, _, _, _ => rfl
  | _, _, .cons name definition rest, required, required', h => by
    rw [fieldsOfDefinitions, fieldsOfDefinitions, h, definition_matches definition,
      definitions_match rest required required' h]
  termination_by structural _ _ h => h

theorem definition_matches : ∀ {v w : Value}, DefinitionMatches v w →
    ∀ (name : String) (required : Bool), fieldOf name required v = fieldOf name required w
  | _, _, .same _, _, _ => rfl
  | _, _, @DefinitionMatches.level a b plain fields items, name, required => by
    have htype : a.lookup "type" = b.lookup "type" :=
      plain "type" (by simp [plainKeywords])
    have hfields := fun hkind => levels_match (fields hkind)
    have hitems := fun hkind => items_match (items hkind) name
    rw [fieldOf, fieldOf, fieldAt, fieldAt, attributesOf_eq plain, ← kindOf_eq htype,
      itemsIn_eq, itemsIn_eq]
    congr 1
    · exact ite_congr rfl
        (fun hkind => by rw [hfields hkind, (fields hkind).shapeAt_eq]) fun _ => rfl
    · exact ite_congr rfl hitems fun _ => rfl
  termination_by structural _ _ h => h

theorem items_match : ∀ {v w : Option Value}, ItemsMatch v w →
    ∀ name : String, v.map (itemsOf name) = w.map (itemsOf name)
  | _, _, .same _, _ => rfl
  | _, _, @ItemsMatch.fields a b type declares fields, name => by
    have hfields := levels_match fields
    have htype : Json.text? "type" a = Json.text? "type" b := by
      rw [Json.text?, Json.text?, type]
    have hdeclares : (Json.text? "type" b = some "object" && hasProperties b) := by
      rw [← htype, ← fields.hasProperties_eq]
      exact declares
    rw [Option.map_some, Option.map_some, itemsOf, itemsOf, itemsAt, itemsAt, htype,
      fields.hasProperties_eq, hfields, fields.schemaAt_eq, if_pos hdeclares,
      if_pos hdeclares]
  termination_by structural _ _ h => h

end

end Document

/-- Matching documents describe the same schema. -/
theorem Document.Matches.ofDocument_eq {d e : Value} (h : Document.Matches d e) :
    Schema.ofDocument d = Schema.ofDocument e := by
  cases h with
  | same => rfl
  | @level a b title name fields =>
    have htitle : Json.text? "title" a = Json.text? "title" b := by
      rw [Json.text?, Json.text?, title]
    have hname : Schema.documentName a = Schema.documentName b := by
      rw [Schema.documentName, Schema.documentName, ← htitle]
      cases ht : Json.text? "title" a with
      | some _ => rfl
      | none => rw [Json.text?, Json.text?, name ht]
    rw [Schema.ofDocument, Schema.ofDocument, hname, Document.levels_match fields,
      fields.schemaAt_eq]

/-- An order of a customer, with nothing in it that does not count. -/
def order : Value := .object [
  ("title", .string "Order"),
  ("properties", .object [
    ("customer", .object [
      ("type", .string "object"),
      ("properties", .object [
        ("email", .object [("type", .string "string"),
          ("description", .string "Where to write")]),
        ("age", .object [("type", .string "integer"),
          ("minimum", .number (.integer 0))])]),
      ("required", .texts ["email", "age"])]),
    ("lines", .object [
      ("type", .string "array"),
      ("items", .object [
        ("type", .string "object"),
        ("properties", .object [("code", .object [("type", .string "string")])]),
        ("required", .texts ["code"])])])]),
  ("required", .texts ["customer", "lines"])]

/-- The same with other keywords, at every level, and with keywords and required names in
another order. -/
def annotatedOrder : Value := .object [
  ("$comment", .string "As the shop sends it"),
  ("required", .texts ["lines", "customer", "lines"]),
  ("properties", .object [
    ("customer", .object [
      ("required", .texts ["age", "email", "age"]),
      ("title", .string "Customer"),
      ("properties", .object [
        ("email", .object [
          ("format", .string "email"), ("description", .string "Where to write"),
          ("minimum", .number (.integer 1)), ("type", .string "string")]),
        ("age", .object [("minimum", .number (.integer 0)),
          ("type", .string "integer")])]),
      ("type", .string "object"),
      ("items", .object [])]),
    ("lines", .object [
      ("items", .object [
        ("name", .string "Line"),
        ("required", .texts ["code", "code"]),
        ("properties", .object [
          ("code", .object [("pattern", .string "[A-Z]+"), ("type", .string "string")])]),
        ("type", .string "object")]),
      ("required", .boolean true),
      ("type", .string "array")])]),
  ("name", .string "order"),
  ("title", .string "Order")]

open Document in
theorem order_matches : Document.Matches order annotatedOrder := by
  have hemail : DefinitionMatches
      (.object [("type", .string "string"), ("description", .string "Where to write")])
      (.object [("format", .string "email"), ("description", .string "Where to write"),
        ("minimum", .number (.integer 1)), ("type", .string "string")]) :=
    .level (plain_of_perm (by decide) (.swap _ _ _)) nofun nofun
  have hage : DefinitionMatches
      (.object [("type", .string "integer"), ("minimum", .number (.integer 0))])
      (.object [("minimum", .number (.integer 0)), ("type", .string "integer")]) :=
    .level (plain_of_perm (by decide) (.swap _ _ _)) nofun nofun
  have hcode : DefinitionMatches (.object [("type", .string "string")])
      (.object [("pattern", .string "[A-Z]+"), ("type", .string "string")]) :=
    .level (plain_of_perm (by decide) (.refl _)) nofun nofun
  have hcustomer : DefinitionsMatch _ _ := .cons "email" hemail (.cons "age" hage .nil)
  have hline : DefinitionsMatch _ _ := .cons "code" hcode .nil
  refine .level rfl nofun (.mk rfl rfl (fun _ => .entries ?_) (.definitions
    (.cons "customer" (.level ?_ (fun _ => .mk rfl rfl (fun _ => .entries ?_)
      (.definitions hcustomer)) nofun)
    (.cons "lines" (.level ?_ nofun fun _ => .fields rfl rfl
      (.mk rfl rfl (fun _ => .entries ?_) (.definitions hline))) .nil))))
  · simp [or_comm]
  · exact plain_of_perm (by decide) (.refl _)
  · simp [or_comm]
  · exact plain_of_perm (by decide) (.refl _)
  · simp

theorem ofDocument_annotatedOrder : Document.Matches order annotatedOrder
    ∧ Schema.ofDocument order = Schema.ofDocument annotatedOrder :=
  ⟨order_matches, order_matches.ofDocument_eq⟩

end StructuredOutput
