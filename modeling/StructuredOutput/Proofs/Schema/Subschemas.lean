import StructuredOutput.Proofs.Schema.Pieces

/-!
# Schemas inside a document

Schemas stand in a schema as properties, as items (one for all, or one for each place), as
what is said of other names, and as branches; `Subschema` recognizes their addresses. The
main statement, `Provider.stands`, is that every schema object of a compiled document is a
declared object, the definition of a declared field, or part of a hand-authored fragment.
-/

namespace StructuredOutput

open Json (Value)

/-! ## Addresses of schemas -/

/-- The keywords whose schemas are given in a list. -/
def branchKeywords : List String := ["anyOf", "oneOf", "allOf"]

/-- The step from a schema to a schema in it: the keyword, and the place under it. -/
inductive SchemaStep : String → Json.Address → Prop
  | property (name : String) : SchemaStep "properties" [.member name]
  | items : SchemaStep "items" []
  /-- Items may be described one by one. -/
  | item (index : Nat) : SchemaStep "items" [.item index]
  | values : SchemaStep "additionalProperties" []
  | branch {keyword : String} (h : keyword ∈ branchKeywords) (index : Nat) :
    SchemaStep keyword [.item index]

/-- The addresses of the schemas in a schema, itself among them. -/
inductive Subschema : Json.Address → Prop
  | self : Subschema []
  | step {address below : Json.Address} {keyword : String} (above : Subschema address)
    (h : SchemaStep keyword below) : Subschema (address ++ .member keyword :: below)

theorem ne_of_mem_branchKeywords {keyword : String} (h : keyword ∈ branchKeywords) :
    keyword ≠ "properties" ∧ keyword ≠ "items" ∧ keyword ≠ "additionalProperties" := by
  have hne : ∀ keyword ∈ branchKeywords,
      keyword ≠ "properties" ∧ keyword ≠ "items"
        ∧ keyword ≠ "additionalProperties" := by decide
  exact hne keyword h

namespace SchemaStep

variable {keyword : String} {below : Json.Address} (h : SchemaStep keyword below)

include h

theorem mem_levelKeywords : keyword ∈ levelKeywords := by
  cases h with
  | branch h _ =>
    have hbranch : ∀ keyword ∈ branchKeywords, keyword ∈ levelKeywords := by decide
    exact hbranch keyword h
  | _ => decide

theorem of_properties (hkeyword : keyword = "properties") :
    ∃ name, below = [.member name] := by
  cases h with
  | property name => exact ⟨name, rfl⟩
  | branch h _ => exact absurd hkeyword (ne_of_mem_branchKeywords h).1
  | _ => exact absurd hkeyword (by decide)

theorem of_items (hkeyword : keyword = "items") :
    below = [] ∨ ∃ index, below = [.item index] := by
  cases h with
  | items => exact .inl rfl
  | item index => exact .inr ⟨index, rfl⟩
  | branch h _ => exact absurd hkeyword (ne_of_mem_branchKeywords h).2.1
  | _ => exact absurd hkeyword (by decide)

theorem of_values (hkeyword : keyword = "additionalProperties") : below = [] := by
  cases h with
  | values => rfl
  | branch h _ => exact absurd hkeyword (ne_of_mem_branchKeywords h).2.2
  | _ => exact absurd hkeyword (by decide)

end SchemaStep

theorem Subschema.prepend {keyword : String} {below address : Json.Address}
    (hstep : SchemaStep keyword below) (h : Subschema address) :
    Subschema (.member keyword :: below ++ address) := by
  induction h with
  | self =>
    rw [List.append_nil]
    exact .step .self hstep
  | step _ h ih =>
    rw [← List.append_assoc]
    exact .step ih h

/-! ## Where the schemas of a document come from -/

/-- What the schema object at an address of a document comes from. -/
inductive Rules.Stands (r : Rules) (s : Schema) : Json.Address → Entries Value → Prop
  | object {address : Json.Address} {place : Place} {fields : Entries Field}
    {level : Entries Value} (h : s.Places address (.object place fields))
    (hsaid : r.SaysObject place fields level) : Stands r s address level
  | definition {address : Json.Address} {place : Place} {fields : Entries Field}
    {name : String} {f : Field} {level : Entries Value}
    (h : s.Places address (.object place fields)) (hf : (name, f) ∈ fields)
    (hsaid : r.SaysContent f.content level) :
    Stands r s (address ++ [.member "properties", .member name]) level
  | fragment {address below : Json.Address} {fragment : Value} {level : Entries Value}
    (h : s.Places address (.fragment fragment))
    (hlevel : (r.finishedFragment fragment).at? below = some (.object level))
    (hbelow : Subschema below ∨ (r.finishedFragment fragment).object? = none) :
    Stands r s (address ++ below) level

section

variable {p : Provider} {s : Schema} {address below : Json.Address} {keyword : String}
  {level inner : Entries Value} (hstep : SchemaStep keyword below)
  (hinner : (Value.object level).at? (.member keyword :: below) = some (.object inner))

include hstep hinner

/-- Below a declared object there are the definitions of its fields. -/
theorem Provider.stands_below_object {place : Place} {fields : Entries Field}
    (h : s.Places address (.object place fields))
    (hsaid : p.rules.SaysObject place fields level) :
    p.rules.Stands s (address ++ .member keyword :: below) inner := by
  obtain ⟨_, v, ⟨⟩, hv, hat⟩ := Value.at?_member_cons hinner
  by_cases hproperties : keyword = "properties"
  · obtain ⟨name, rfl⟩ := hstep.of_properties hproperties
    rw [hproperties, hsaid.properties] at hv
    cases hv
    rw [Value.at?_member, Entries.lookup_mapValues] at hat
    obtain ⟨f, hf, hdefinition⟩ := Option.map_eq_some_iff.mp hat
    obtain ⟨_, hlevel, hcontent⟩ := p.definition_saysContent f
    cases hlevel.symm.trans hdefinition
    rw [hproperties]
    exact .definition h (Entries.mem_of_lookup hf) hcontent
  by_cases hextra : keyword = "additionalProperties"
  · -- What is said of other names is no schema object.
    rw [hextra] at hv
    obtain ⟨allowed, rfl⟩ := hsaid.extra v hv
    rw [hstep.of_values hextra] at hat
    cases hat
  · rw [hsaid.nothing_else keyword hstep.mem_levelKeywords hproperties hextra] at hv
    cases hv

/-- Below a level that goes on under one keyword, a step leads there. -/
theorem GoesOnUnder.of_step {only : String} {v : Value} (h : GoesOnUnder only v level) :
    keyword = only ∧ v.at? below = some (.object inner) := by
  obtain ⟨_, w, ⟨⟩, hw, hat⟩ := Value.at?_member_cons hinner
  obtain ⟨hkeyword, rfl⟩ := h.of_lookup hstep.mem_levelKeywords hw
  exact ⟨hkeyword, hat⟩

/-- Below the definition of a map there is the fragment of its values. -/
theorem Provider.stands_below_map {values : Value}
    (h : s.Places (address ++ [.member "additionalProperties"]) (.fragment values))
    (hsaid : p.rules.SaysContent (.map values) level) :
    p.rules.Stands s (address ++ .member keyword :: below) inner := by
  obtain ⟨hvalues, hat⟩ := GoesOnUnder.of_step hstep hinner hsaid
  rw [hstep.of_values hvalues] at hat ⊢
  rw [hvalues, ← List.append_nil (address ++ _)]
  exact .fragment h hat (.inl .self)

/-- Below the definition of an array there is the object that its item schema declares. -/
theorem Provider.stands_below_schemaItems {fields : Entries Field}
    (h : s.Places (address ++ [.member "items"]) (.object .standalone fields))
    (hsaid : p.rules.SaysContent (.schemaItems fields) level) :
    p.rules.Stands s (address ++ .member keyword :: below) inner := by
  obtain ⟨item, hitem, honly⟩ := hsaid
  obtain ⟨hitems, hat⟩ := honly.of_step hstep hinner
  rcases hstep.of_items hitems with rfl | ⟨index, rfl⟩
  · cases hat
    rw [hitems]
    exact .object h hitem
  · cases hat

/-- Below the definition of an array there is the fragment of its items, which may be a
list. -/
theorem Provider.stands_below_fragmentItems {fragment : Value}
    (h : s.Places (address ++ [.member "items"]) (.fragment fragment))
    (hsaid : p.rules.SaysContent (.fragmentItems fragment) level) :
    p.rules.Stands s (address ++ .member keyword :: below) inner := by
  obtain ⟨hitems, hat⟩ := GoesOnUnder.of_step hstep hinner hsaid
  rw [hitems, List.append_cons]
  refine .fragment h hat ?_
  rcases hstep.of_items hitems with rfl | ⟨index, rfl⟩
  · exact .inl .self
  · exact .inr (Value.object?_eq_none_of_at?_item hat)

/-- Below the definition of a field there is what the field holds. -/
theorem Provider.stands_below_definition {place : Place} {fields : Entries Field}
    {name : String} {f : Field} (h : s.Places address (.object place fields))
    (hf : (name, f) ∈ fields) (hsaid : p.rules.SaysContent f.content level) :
    p.rules.Stands s
      (address ++ [.member "properties", .member name] ++ .member keyword :: below)
      inner := by
  have hpiece {under : Json.Address} {piece : Piece}
      (heq : f.content.piece? = some (under, piece)) :
      s.Places (address ++ [.member "properties", .member name] ++ under) piece :=
        h.field hf heq
  generalize f.content = content at hsaid hpiece
  cases content with
  | object extra fields =>
    have hobject := hpiece rfl
    rw [List.append_nil] at hobject
    exact stands_below_object hstep hinner hobject hsaid
  | map values => exact stands_below_map hstep hinner (hpiece rfl) hsaid
  | schemaItems fields => exact stands_below_schemaItems hstep hinner (hpiece rfl) hsaid
  | fragmentItems fragment =>
    exact stands_below_fragmentItems hstep hinner (hpiece rfl) hsaid
  | nothing =>
    obtain ⟨_, v, ⟨⟩, hv, -⟩ := Value.at?_member_cons hinner
    rw [hsaid keyword hstep.mem_levelKeywords] at hv
    cases hv

end

/-- Every schema object of a document is a declared object, the definition of a field, or
part of a fragment. -/
theorem Provider.stands (p : Provider) (s : Schema) {address : Json.Address}
    (h : Subschema address) {level : Entries Value}
    (hlevel : (p.compile s).at? address = some (.object level)) :
    p.rules.Stands s address level := by
  induction h generalizing level with
  | self =>
    obtain ⟨_, hdocument, hsaid⟩ := p.compile_saysObject s
    cases hdocument.symm.trans (Option.some.inj hlevel)
    exact .object .document hsaid
  | step above hstep ih =>
    rw [Value.at?_append] at hlevel
    obtain ⟨v, hv, hinner⟩ := Option.bind_eq_some_iff.mp hlevel
    obtain ⟨outer, -, rfl, -, -⟩ := Value.at?_member_cons hinner
    cases ih hv with
    | object hplaces hsaid => exact stands_below_object hstep hinner hplaces hsaid
    | definition hplaces hf hsaid =>
      exact stands_below_definition hstep hinner hplaces hf hsaid
    | fragment hplaces houter hbelow =>
      rw [List.append_assoc]
      refine .fragment hplaces ?_ ?_
      · rw [Value.at?_append, houter]
        exact hinner
      · exact hbelow.imp_left fun h => .step h hstep

end StructuredOutput
