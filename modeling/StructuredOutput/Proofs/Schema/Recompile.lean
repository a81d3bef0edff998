import StructuredOutput.Proofs.Schema.ReadBack
import StructuredOutput.Proofs.Schema.Settled

/-!
# Compiling what was read

A schema that is read from a document loses nothing more when it is compiled and read
again: rules that do not see what a retention changes (`Rules.Overlooks`) write the same
document before and after it, as long as the schema is settled. The main statement is that
compiling, reading and compiling again is stable in every dialect.
-/

namespace StructuredOutput

open Json (Value)

/-- The rules write the same of a settled schema before and after the retention. -/
structure Rules.Overlooks (r : Rules) (k : Retention) : Prop where
  kind : ∀ a, (k.attributes a).kind = a.kind
  keywords : ∀ a, (k.attributes a).keywords = a.keywords
  demands : ∀ a, r.demands (k.attributes a) = r.demands a
  defaultKeyword : ∀ a, a.default ≠ some .null →
    r.defaultKeyword (k.attributes a) = r.defaultKeyword a
  fragment : ∀ v, r.fragment (k.fragment v) = r.fragment v
  fragment_object : ∀ level, ∃ kept, k.fragment (.object level) = .object kept
    ∧ Document.describesFields kept = Document.describesFields level
  nestedClosing : ∀ names extra, r.nestedClosing names (k.extra extra)
    = r.nestedClosing names extra

namespace Rules.Overlooks

variable {r : Rules} {k : Retention}

theorem attributes_field (name : String) (f : Field) :
    (k.field name f).attributes = k.attributes f.attributes := by
  cases f
  rfl

theorem namesWhere_fields (ho : r.Overlooks k) (fields : Entries Field) :
    Schema.namesWhere r.demands (k.fields fields)
      = Schema.namesWhere r.demands fields := by
  rw [Retention.fields_eq]
  apply Schema.namesWhere_mapValues
  intro name f
  rw [attributes_field, ho.demands]

theorem nested_extra (ho : r.Overlooks k) (required : List String)
    (properties : Entries Value) (extra : Bool) :
    r.nested required properties (k.extra extra) = r.nested required properties extra := by
  rw [nested, nested, ho.nestedClosing]

/-- A map that can be read is written as before. -/
theorem shape_mapShape (ho : r.Overlooks k) {name : String} {description : Option String}
    {values : Value} (h : (Shape.map values).Settled name description) :
    r.shape (some (k.mapShape values)) = r.shape (some (.map values)) := by
  cases h with
  | values level => rw [Retention.mapShape, Rules.shape, Rules.shape, ho.fragment]
  | anything => rfl

/-- A fragment that cannot be taken apart is written as before. -/
theorem items_fragment (ho : r.Overlooks k) {name : String} {fragment : Value}
    (h : (Items.fragment fragment).Settled name) :
    r.items (some (Document.itemsOf name (k.fragment fragment)))
      = r.items (some (.fragment fragment)) := by
  cases h with
  | fragment level hlevel =>
    obtain ⟨kept, hkept, hdescribes⟩ := ho.fragment_object level
    -- Only a level that describes fields would be taken apart.
    have hitems : Document.itemsOf name (.object kept) = .fragment (.object kept) := by
      have hkeeps : Document.describesFields kept = false := hdescribes.trans hlevel
      rw [Document.itemsOf, Document.itemsAt, ← Document.describesFields, hkeeps]
      rfl
    rw [hkept, hitems, Rules.items, Rules.items, ← hkept, ho.fragment]

-- The recursion of the compiler, over a schema and over what is kept of it.
mutual

theorem properties_fields (ho : r.Overlooks k) : ∀ {fields : List (String × Field)},
    SettledFields fields → FieldsHold SettledFields (fun _ => True) fields →
    r.properties (k.fields fields) = r.properties fields
  | [], _, _ => rfl
  | (name, f) :: rest, hsettled, hfields => by
    have hrest : SettledFields rest := fun e he => hsettled e (List.mem_cons_of_mem _ he)
    have hf : f.Settled name := hsettled (name, f) List.mem_cons_self
    rw [Retention.fields, properties, properties, field_field ho hf hfields.1,
      properties_fields ho hrest hfields.2]
  termination_by structural fields => fields

theorem field_field (ho : r.Overlooks k) : ∀ {f : Field} {name : String},
    f.Settled name → FieldHolds SettledFields (fun _ => True) f →
    r.field (k.field name f) = r.field f
  | ⟨attributes, shape, items⟩, name, hsettled, hf => by
    rw [Retention.field, Rules.field, Rules.field, ho.kind, ho.keywords,
      ho.defaultKeyword _ hsettled.default]
    cases hkind : attributes.kind with
    | object =>
      have hshape := shape_shape ho hsettled.shape hf.1
      simp [hshape]
    | array =>
      have hitems := items_items ho hsettled.items hf.2
      simp [hitems]
    | _ => rfl
  termination_by structural f => f

theorem shape_shape (ho : r.Overlooks k) : ∀ {shape : Option Shape} {name : String}
    {description : Option String}, (∀ s, shape = some s → s.Settled name description) →
    ShapeHolds SettledFields (fun _ => True) shape →
    r.shape (some (k.shape name description shape)) = r.shape shape
  | none, _, _, _, _ => rfl
  | some (.schema ⟨_, _, fields, extra⟩), _, _, _, h => by
    rw [Retention.shape, Retention.declaredShape, Rules.shape, Rules.shape,
      ho.namesWhere_fields, properties_fields ho h.1 h.2, ho.nested_extra]
  | some (.inline fields extra), _, _, _, h => by
    rw [Retention.shape, Retention.declaredShape, Rules.shape, Rules.shape,
      ho.namesWhere_fields, properties_fields ho h.1 h.2, ho.nested_extra]
  | some (.map values), _, _, hsettled, _ => ho.shape_mapShape (hsettled _ rfl)
  termination_by structural shape => shape

theorem items_items (ho : r.Overlooks k) : ∀ {items : Option Items} {name : String},
    (∀ i, items = some i → i.Settled name) →
    ItemsHold SettledFields (fun _ => True) items →
    r.items (k.items name items) = r.items items
  | none, _, _, _ => rfl
  | some (.schema ⟨_, _, fields, _⟩), _, _, h => by
    rw [Retention.items, Rules.items, Rules.items, ho.namesWhere_fields,
      properties_fields ho h.1 h.2]
  | some (.fragment fragment), _, hsettled, _ => ho.items_fragment (hsettled _ rfl)
  termination_by structural items => items

end

/-- What the rules overlook does not change the document of a settled schema. -/
theorem compile_schema (ho : r.Overlooks k) {s : Schema} (h : s.Settled) :
    r.compile (k.schema s) = r.compile s := by
  rw [compile, compile, Retention.schema, ho.namesWhere_fields,
    properties_fields ho h.1 h.2]

end Rules.Overlooks

/-! ## What the dialects overlook -/

/-- A default that is not `null` is settled. -/
theorem Rules.defaultKeyword_settled (r : Rules) {a : Attributes}
    (h : a.default ≠ some .null) : r.defaultKeyword a.settled = r.defaultKeyword a := by
  have hdefault : a.settled.default = a.default := by
    cases hd : a.default with
    | none => simp [Attributes.settled, hd]
    | some v =>
      cases v with
      | null => exact absurd hd h
      | _ => simp [Attributes.settled, hd, Option.filter, Value.isNull]
  rw [defaultKeyword, defaultKeyword, hdefault]

/-- The plain dialect keeps everything that any dialect writes. -/
theorem Provider.overlooks_ollama (p : Provider) :
    p.rules.Overlooks Provider.ollama.retention where
  kind _ := rfl
  keywords a := a.keywords_settled
  demands _ := by cases p <;> rfl
  defaultKeyword _ h := p.rules.defaultKeyword_settled h
  fragment _ := rfl
  fragment_object level := ⟨level, rfl, rfl⟩
  nestedClosing _ _ := rfl

/-- Anthropic closes every nested object, whatever its flag. -/
theorem Anthropic.overlooks : Anthropic.rules.Overlooks Provider.anthropic.retention where
  kind _ := rfl
  keywords a := a.keywords_settled
  demands _ := rfl
  defaultKeyword _ h := Anthropic.rules.defaultKeyword_settled h
  fragment _ := rfl
  fragment_object level := ⟨level, rfl, rfl⟩
  nestedClosing _ _ := rfl

theorem Gemini.overlooks : Gemini.rules.Overlooks Provider.gemini.retention where
  kind _ := rfl
  keywords a := a.keywords_settled
  demands _ := rfl
  defaultKeyword _ h := Gemini.rules.defaultKeyword_settled h
  fragment v := ordered_ordered v
  fragment_object level := by
    refine ⟨_, ordered_object level, Document.describesFields_congr ?_ ?_⟩
    · rw [describesObject_stateOrder, describesObject_orderedMember]
    · rw [properties_stateOrder, properties_orderedMember, Option.map_map]
      cases Json.object? "properties" level with
      | none => rfl
      | some properties => exact congrArg some (Entries.names_mapValues _ properties)
  nestedClosing _ _ := rfl

/-! ## Recompiling -/

namespace Provider

/-- The document, in the provider's dialect, of what a document says. -/
def recompile (p : Provider) (document : Value) : Value :=
  p.compile (Schema.ofDocument document)

theorem compile_normalForm_openAI {s : Schema} (h : s.Settled) :
    openAI.compile (openAI.normalForm s) = openAI.compile s := by
  have hnormal : openAI.normalForm s = ollama.retention.schema (OpenAI.strictify s) := by
    rw [normalForm, Retention.schema, Retention.schema, ← retention_strictifyFields]
    rfl
  have hoverlooks : OpenAI.rules.Overlooks ollama.retention := overlooks_ollama openAI
  show OpenAI.rules.compile _ = OpenAI.rules.compile s
  rw [hnormal, hoverlooks.compile_schema (OpenAI.settled_strictify h),
    OpenAI.rules_compile, OpenAI.strictify_strictify, ← OpenAI.rules_compile]

/-- A settled schema and its normal form have the same document. -/
theorem compile_normalForm (p : Provider) {s : Schema} (h : s.Settled) :
    p.compile (p.normalForm s) = p.compile s := by
  cases p with
  | openAI => exact compile_normalForm_openAI h
  | anthropic => exact Anthropic.overlooks.compile_schema h
  | gemini => exact Gemini.overlooks.compile_schema h
  | ollama => exact (overlooks_ollama ollama).compile_schema h

/-- Recompiling is stable in every dialect: what a document says, once written, is written
the same again. -/
theorem recompile_recompile (p : Provider) (document : Value) :
    p.recompile (p.recompile document) = p.recompile document := by
  have hread := p.ofDocument_compile_of_coherent (Document.coherent_ofDocument document)
  have hsettled := Document.settled_ofDocument document
  calc p.recompile (p.recompile document)
      = p.compile (p.normalForm (Schema.ofDocument document)) := congrArg p.compile hread
    _ = p.recompile document := p.compile_normalForm hsettled

end Provider

end StructuredOutput
