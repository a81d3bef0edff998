import StructuredOutput.Proofs.Json.Address
import StructuredOutput.Proofs.OpenAI.Strictify
import StructuredOutput.Proofs.Schema.ReadBack

/-!
# What the dialects disagree about

Strict mode requires fields that a schema leaves optional, and `Schema.optionalFields` is
there to name them. Here they are read off the documents instead: `Schema.declarations`
walks the declared fields with the address that each has in every document, and
`Declaration.requiredIn` looks into a document to see whether the object there requires the
field. The main statement is that the optional fields are, in the order of the walk, those
that the OpenAI document requires and a plain document does not.
-/

namespace StructuredOutput

open Json (Value)

/-! ## Declared fields -/

/-- A declared field: its path, the address of its object in a document, its name there,
and its attributes. -/
structure Declaration where
  path : String
  owner : Json.Address
  name : String
  attributes : Attributes

/-- The address of the property of that name. -/
def propertyOf (owner : Json.Address) (name : String) : Json.Address :=
  owner ++ [.member "properties", .member name]

mutual

/-- The fields of the object at `owner` and those inside them, each field before those
inside it. -/
def declared (parent : String) (owner : Json.Address) :
    List (String × Field) → List Declaration
  | [] => []
  | (name, f) :: rest =>
    ⟨parent ++ name, owner, name, f.attributes⟩
      :: declaredInField (parent ++ name) (propertyOf owner name) f
        ++ declared parent owner rest
  termination_by structural fields => fields

/-- The fields inside the field at `place`. -/
def declaredInField (path : String) (place : Json.Address) : Field → List Declaration
  | ⟨attributes, shape, items⟩ =>
    match attributes.kind with
    | .object => declaredInShape path place shape
    | .array => declaredInItems path place items
    | _ => []
  termination_by structural f => f

def declaredInShape (path : String) (place : Json.Address) :
    Option Shape → List Declaration
  | some (.schema ⟨_, _, fields, _⟩) => declared (path ++ ".") place fields
  | some (.inline fields _) => declared (path ++ ".") place fields
  | some (.map _) => []
  | none => []
  termination_by structural shape => shape

def declaredInItems (path : String) (place : Json.Address) :
    Option Items → List Declaration
  | some (.schema ⟨_, _, fields, _⟩) =>
    declared (path ++ "[].") (place ++ [.member "items"]) fields
  | some (.fragment _) => []
  | none => []
  termination_by structural items => items

end

/-- The declared fields of a schema, from the document down. -/
def Schema.declarations (s : Schema) : List Declaration := declared "" [] s.fields

namespace Declaration

/-- The address of the field in a document. -/
def place (d : Declaration) : Json.Address := propertyOf d.owner d.name

/-- Whether the object that declares the field requires it, in a document. An object that
does not say what it requires requires nothing. -/
def requiredIn (d : Declaration) (document : Value) : Bool :=
  match document.at? d.owner with
  | some (.object level) => (Document.requiredNames level).contains d.name
  | _ => false

end Declaration

/-- The declared fields that one document requires and another does not. -/
def Schema.requiredOnlyIn (s : Schema) (first second : Value) : List Declaration :=
  s.declarations.filter fun d => d.requiredIn first && !d.requiredIn second

/-! ## Optional fields in the walk -/

mutual

theorem optionalPaths_eq : ∀ (fields : List (String × Field)) (parent : String)
    (owner : Json.Address), optionalPaths parent fields
      = ((declared parent owner fields).filter (!·.attributes.required)).map (·.path)
  | [], _, _ => rfl
  | (name, f) :: rest, parent, owner => by
    rw [optionalPaths, declared, pathsInField_eq_declared f _ (propertyOf owner name),
      optionalPaths_eq rest parent owner]
    cases h : f.attributes.required <;> simp [h]
  termination_by structural fields => fields

theorem pathsInField_eq_declared : ∀ (f : Field) (path : String) (place : Json.Address),
    pathsInField path f
      = ((declaredInField path place f).filter (!·.attributes.required)).map (·.path)
  | ⟨attributes, shape, items⟩, path, place => by
    have hshape := pathsInShape_eq shape path place
    have hitems := pathsInItems_eq items path place
    rw [pathsInField, declaredInField]
    cases attributes.kind with
    | object => exact hshape
    | array => exact hitems
    | _ => rfl
  termination_by structural f => f

theorem pathsInShape_eq : ∀ (shape : Option Shape) (path : String) (place : Json.Address),
    pathsInShape path shape
      = ((declaredInShape path place shape).filter (!·.attributes.required)).map (·.path)
  | none, _, _ => rfl
  | some (.schema ⟨_, _, fields, _⟩), path, place =>
    optionalPaths_eq fields (path ++ ".") place
  | some (.inline fields _), path, place => optionalPaths_eq fields (path ++ ".") place
  | some (.map _), _, _ => rfl
  termination_by structural shape => shape

theorem pathsInItems_eq : ∀ (items : Option Items) (path : String) (place : Json.Address),
    pathsInItems path items
      = ((declaredInItems path place items).filter (!·.attributes.required)).map (·.path)
  | none, _, _ => rfl
  | some (.schema ⟨_, _, fields, _⟩), path, _ => optionalPaths_eq fields (path ++ "[].") _
  | some (.fragment _), _, _ => rfl
  termination_by structural items => items

end

/-! ## Every field once -/

/-- The addresses of what is inside `place`. -/
def Inside (place address : Json.Address) : Prop :=
  ∃ edge below, address = place ++ edge :: below

/-- The addresses of the properties of those names, and of what is inside them. -/
def InProperties (owner : Json.Address) (names : List String)
    (address : Json.Address) : Prop :=
  ∃ name ∈ names, ∃ below, address = propertyOf owner name ++ below

theorem not_inside_self (place : Json.Address) : ¬Inside place place := by
  rintro ⟨edge, below, h⟩
  have hlength := congrArg List.length h
  simp at hlength

theorem InProperties.inside {owner address : Json.Address} {names : List String}
    (h : InProperties owner names address) : Inside owner address := by
  obtain ⟨name, -, below, rfl⟩ := h
  exact ⟨.member "properties", .member name :: below, List.append_assoc owner _ below⟩

theorem Inside.of_snoc {place address : Json.Address} {edge : Json.Edge}
    (h : Inside (place ++ [edge]) address) : Inside place address := by
  obtain ⟨next, below, rfl⟩ := h
  exact ⟨edge, next :: below, List.append_assoc place _ _⟩

/-- Properties of different names have nothing in common. -/
theorem eq_of_propertyOf_append {owner below below' : Json.Address} {name other : String}
    (h : propertyOf owner name ++ below = propertyOf owner other ++ below') :
    name = other := by
  rw [propertyOf, propertyOf, List.append_assoc, List.append_assoc] at h
  have hnames : name = other ∧ below = below' := by simpa using List.append_cancel_left h
  exact hnames.1

/-- The declarations stand in the given scope, each in a place of its own. -/
structure StandApart (scope : Json.Address → Prop) (ds : List Declaration) : Prop where
  nodup : (ds.map Declaration.place).Nodup
  scope : ∀ d ∈ ds, scope d.place

namespace StandApart

variable {scope other : Json.Address → Prop} {ds es : List Declaration}

theorem nil : StandApart scope [] := ⟨List.nodup_nil, List.forall_mem_nil _⟩

theorem mono (h : StandApart scope ds)
    (hscope : ∀ address, scope address → other address) : StandApart other ds :=
  ⟨h.nodup, fun d hd => hscope _ (h.scope d hd)⟩

theorem cons {d : Declaration} (h : StandApart scope ds) (hd : ¬scope d.place) :
    StandApart (fun address => address = d.place ∨ scope address) (d :: ds) := by
  refine ⟨List.nodup_cons.mpr ⟨?_, h.nodup⟩, ?_⟩
  · intro hmem
    obtain ⟨e, he, hplace⟩ := List.mem_map.mp hmem
    exact hd (hplace ▸ h.scope e he)
  · intro e he
    exact (List.mem_cons.mp he).imp (congrArg Declaration.place) (h.scope e)

theorem append (h : StandApart scope ds) (h' : StandApart other es)
    (hscopes : ∀ address, scope address → ¬other address) :
    StandApart (fun address => scope address ∨ other address) (ds ++ es) := by
  refine ⟨?_, fun d hd => (List.mem_append.mp hd).imp (h.scope d) (h'.scope d)⟩
  rw [List.map_append]
  refine List.nodup_append.mpr ⟨h.nodup, h'.nodup, ?_⟩
  intro left hleft right hright hsame
  obtain ⟨d, hd, rfl⟩ := List.mem_map.mp hleft
  obtain ⟨e, he, rfl⟩ := List.mem_map.mp hright
  exact hscopes _ (h.scope d hd) (hsame ▸ h'.scope e he)

end StandApart

/-- A field, what is inside it, and the fields after it. -/
theorem standApart_cons {d : Declaration} {names : List String} (hname : d.name ∉ names)
    {inside rest : List Declaration} (hinside : StandApart (Inside d.place) inside)
    (hrest : StandApart (InProperties d.owner names) rest) :
    StandApart (InProperties d.owner (d.name :: names)) (d :: inside ++ rest) := by
  have hfirst (address : Json.Address) (h : address = d.place ∨ Inside d.place address) :
      ∃ below, address = d.place ++ below := by
    rcases h with rfl | ⟨edge, below, rfl⟩
    · exact ⟨[], (List.append_nil _).symm⟩
    · exact ⟨edge :: below, rfl⟩
  have hapart := (hinside.cons (not_inside_self d.place)).append hrest ?_
  · refine hapart.mono fun address h => ?_
    rcases h with h | ⟨name, hmem, hbelow⟩
    · exact ⟨d.name, List.mem_cons_self, hfirst address h⟩
    · exact ⟨name, List.mem_cons_of_mem _ hmem, hbelow⟩
  · rintro address h ⟨name, hmem, below, hbelow⟩
    obtain ⟨below', rfl⟩ := hfirst address h
    exact hname (eq_of_propertyOf_append hbelow ▸ hmem)

mutual

theorem standApart_declared : ∀ (fields : List (String × Field)) (parent : String)
    (owner : Json.Address), DistinctFields fields →
    StandApart (InProperties owner (Entries.names fields)) (declared parent owner fields)
  | [], _, _, _ => .nil
  | (name, f) :: rest, parent, owner, h => by
    obtain ⟨hname, hnames⟩ := List.nodup_cons.mp h.1
    have hrest := standApart_declared rest parent owner ⟨hnames, h.2.2⟩
    have hinside := standApart_declaredInField f (parent ++ name)
      (propertyOf owner name) h.2.1
    exact standApart_cons (d := ⟨parent ++ name, owner, name, f.attributes⟩) hname
      hinside hrest
  termination_by structural fields => fields

theorem standApart_declaredInField : ∀ (f : Field) (path : String) (place : Json.Address),
    DistinctField f → StandApart (Inside place) (declaredInField path place f)
  | ⟨attributes, shape, items⟩, path, place, h => by
    have hshape := standApart_declaredInShape shape path place h.1
    have hitems := standApart_declaredInItems items path place h.2
    rw [declaredInField]
    cases attributes.kind with
    | object => exact hshape
    | array => exact hitems
    | _ => exact .nil
  termination_by structural f => f

theorem standApart_declaredInShape : ∀ (shape : Option Shape) (path : String)
    (place : Json.Address), DistinctShape shape →
    StandApart (Inside place) (declaredInShape path place shape)
  | none, _, _, _ => .nil
  | some (.schema ⟨_, _, fields, _⟩), path, place, h =>
    (standApart_declared fields (path ++ ".") place h).mono fun _ => InProperties.inside
  | some (.inline fields _), path, place, h =>
    (standApart_declared fields (path ++ ".") place h).mono fun _ => InProperties.inside
  | some (.map _), _, _, _ => .nil
  termination_by structural shape => shape

theorem standApart_declaredInItems : ∀ (items : Option Items) (path : String)
    (place : Json.Address), DistinctItems items →
    StandApart (Inside place) (declaredInItems path place items)
  | none, _, _, _ => .nil
  | some (.schema ⟨_, _, fields, _⟩), path, _, h =>
    (standApart_declared fields (path ++ "[].") _ h).mono fun _ h => h.inside.of_snoc
  | some (.fragment _), _, _, _ => .nil
  termination_by structural items => items

end

/-! ## Declared fields in plain documents -/

/-- The field is there in the document, and required just if it is required by its
attributes. -/
structure Declaration.WrittenIn (d : Declaration) (document : Value) : Prop where
  isSome : (document.at? d.place).isSome
  requiredIn : d.requiredIn document = d.attributes.required

/-- The level holds what the rules write of the given fields, and requires those that are
required. -/
structure Rules.Declares (r : Rules) (level : Entries Value)
    (fields : Entries Field) : Prop where
  field : ∀ e ∈ fields, (Value.object level).at? (propertyOf [] e.1) = some (r.field e.2)
  required : ∀ e ∈ fields, (Document.requiredNames level).contains e.1
    = e.2.attributes.required

namespace Rules

variable {r : Rules}

theorem Declares.tail {level : Entries Value} {e : String × Field} {rest : Entries Field}
    (h : r.Declares level (e :: rest)) : r.Declares level rest :=
  ⟨fun d hd => h.field d (List.mem_cons_of_mem _ hd),
    fun d hd => h.required d (List.mem_cons_of_mem _ hd)⟩

/-- Where names are distinct, each finds its field. -/
theorem declares_of_lookup {level : Entries Value} {fields : Entries Field}
    (hdistinct : fields.names.Nodup)
    (hproperties : level.lookup "properties" = some (.object (r.properties fields)))
    (hrequired : Document.requiredNames level = Schema.namesWhere (·.required) fields) :
    r.Declares level fields := by
  refine ⟨fun e he => ?_, fun e he => ?_⟩
  · have hfield : (r.properties fields).lookup e.1 = some (r.field e.2) := by
      rw [properties_eq, Entries.lookup_mapValues, Entries.lookup_of_mem hdistinct he]
      rfl
    show (Value.object level).at? ([.member "properties"] ++ [.member e.1]) = _
    rw [Value.at?_append, Value.at?_member, hproperties, Option.bind_some,
      Value.at?_member, hfield]
  · rw [hrequired, (flagsByName_of_nodup hdistinct).contains_namesWhere he]

namespace Keeps

variable {k : Retention} {R : Value → Prop}

theorem declares_standaloneLevel (hk : r.Keeps k) {fields : Entries Field}
    (hdistinct : fields.names.Nodup) :
    r.Declares (r.standaloneLevel (Schema.namesWhere r.demands fields)
      (r.properties fields))
      fields := by
  refine declares_of_lookup hdistinct (hk.lookup_standaloneLevel (by decide) _ _) ?_
  rw [← hk.demands]
  exact Document.requiredNames_of_texts (hk.lookup_standaloneLevel (by decide) _ _)

theorem declares_nested (hk : r.Keeps k) {fields : Entries Field}
    (hdistinct : fields.names.Nodup) {level : Entries Value} {extra : Bool}
    (hlevel : ∀ keyword ∉ Attributes.vocabulary, level.lookup keyword
      = (r.nested (Schema.namesWhere r.demands fields) (r.properties fields) extra).lookup
        keyword) :
    r.Declares level fields := by
  have hsaid := hk.saysNested hlevel
  refine declares_of_lookup hdistinct hsaid.properties ?_
  rw [hsaid.requiredNames, hk.demands]

-- The recursion of the walk, next to what the rules write of the same fields. What carries
-- it is the value that the document has at the address of the walk.
mutual

theorem written_declared (hk : r.Keeps k) (document : Value) :
    ∀ (fields : List (String × Field)) (parent : String) (owner : Json.Address)
    (level : Entries Value),
    FieldsHold (fun fields => fields.names.Nodup) R fields →
    document.at? owner = some (.object level) → r.Declares level fields →
    ∀ d ∈ declared parent owner fields, d.WrittenIn document
  | [], _, _, _, _, _, _, _, hd => by cases hd
  | (name, f) :: rest, parent, owner, level, h, howner, hlevel, d, hd => by
    have hplace : document.at? (propertyOf owner name) = some (r.field f) := by
      rw [propertyOf, Value.at?_append, howner]
      exact hlevel.field (name, f) List.mem_cons_self
    rw [declared, List.cons_append, List.mem_cons, List.mem_append] at hd
    rcases hd with rfl | hinside | hrest
    · refine ⟨Option.isSome_of_eq_some hplace, ?_⟩
      rw [Declaration.requiredIn, howner]
      exact hlevel.required (name, f) List.mem_cons_self
    · exact written_declaredInField hk document f _ _ h.1 hplace d hinside
    · exact written_declared hk document rest parent owner level h.2 howner
        hlevel.tail d hrest
  termination_by structural fields => fields

theorem written_declaredInField (hk : r.Keeps k) (document : Value) : ∀ (f : Field)
    (path : String) (place : Json.Address),
    FieldHolds (fun fields => fields.names.Nodup) R f →
    document.at? place = some (r.field f) →
    ∀ d ∈ declaredInField path place f, d.WrittenIn document
  | ⟨attributes, shape, items⟩, path, place, h, hplace => by
    have hshape := written_declaredInShape hk document shape path place
      (r.fieldLevel attributes (r.body ⟨attributes, shape, items⟩)) h.1
    have hitems := written_declaredInItems hk document items path place
      (r.fieldLevel attributes (r.body ⟨attributes, shape, items⟩)) h.2
    rw [field_eq] at hplace
    rw [declaredInField]
    cases hkind : attributes.kind with
    | object =>
      refine hshape hplace fun keyword hkeyword => ?_
      rw [lookup_fieldLevel_of_not_mem hkeyword, body, hkind]
    | array =>
      refine hitems hplace ?_
      rw [lookup_fieldLevel_of_not_mem (by decide), body, hkind]
    | _ => exact List.forall_mem_nil _
  termination_by structural f => f

theorem written_declaredInShape (hk : r.Keeps k) (document : Value) :
    ∀ (shape : Option Shape) (path : String) (place : Json.Address)
    (level : Entries Value),
    ShapeHolds (fun fields => fields.names.Nodup) R shape →
    document.at? place = some (.object level) →
    (∀ keyword ∉ Attributes.vocabulary, level.lookup keyword
      = (r.shape shape).lookup keyword) →
    ∀ d ∈ declaredInShape path place shape, d.WrittenIn document
  | none, _, _, _, _, _, _ => List.forall_mem_nil _
  | some (.schema ⟨_, _, fields, _⟩), path, place, level, h, hplace, hlevel =>
    written_declared hk document fields (path ++ ".") place level h.2 hplace
      (hk.declares_nested h.1 hlevel)
  | some (.inline fields _), path, place, level, h, hplace, hlevel =>
    written_declared hk document fields (path ++ ".") place level h.2 hplace
      (hk.declares_nested h.1 hlevel)
  | some (.map _), _, _, _, _, _, _ => List.forall_mem_nil _
  termination_by structural shape => shape

theorem written_declaredInItems (hk : r.Keeps k) (document : Value) :
    ∀ (items : Option Items) (path : String) (place : Json.Address)
    (level : Entries Value),
    ItemsHold (fun fields => fields.names.Nodup) R items →
    document.at? place = some (.object level) →
    level.lookup "items" = (r.items items).lookup "items" →
    ∀ d ∈ declaredInItems path place items, d.WrittenIn document
  | none, _, _, _, _, _, _ => List.forall_mem_nil _
  | some (.schema ⟨_, _, fields, _⟩), path, place, level, h, hplace, hlevel => by
    have hitem : document.at? (place ++ [.member "items"]) = some (.object
        (r.standaloneLevel (Schema.namesWhere r.demands fields)
          (r.properties fields))) := by
      rw [Value.at?_append, hplace, Option.bind_some, Value.at?_member, hlevel]
      rfl
    exact written_declared hk document fields (path ++ "[].") _ _ h.2 hitem
      (hk.declares_standaloneLevel h.1)
  | some (.fragment _), _, _, _, _, _, _ => List.forall_mem_nil _
  termination_by structural items => items

end

/-- A plain document has every declared field, and requires those that are required. -/
theorem written_declarations (hk : r.Keeps k) {s : Schema}
    (h : s.Holds (fun fields => fields.names.Nodup) R) :
    ∀ d ∈ s.declarations, d.WrittenIn (r.compile s) := by
  rw [hk.compile_eq s]
  exact written_declared hk _ s.fields "" [] _ h.2 rfl (hk.declares_standaloneLevel h.1)

end Keeps

end Rules

/-! ## Declared fields of strict schemas -/

namespace OpenAI

/-- The declaration of the field that is made strict. -/
def strictifyDeclaration (d : Declaration) : Declaration :=
  { d with attributes := strictifyAttributes d.attributes }

mutual

theorem declared_strictifyFields : ∀ (fields : List (String × Field)) (parent : String)
    (owner : Json.Address), declared parent owner (strictifyFields fields)
      = (declared parent owner fields).map strictifyDeclaration
  | [], _, _ => rfl
  | (name, f) :: rest, parent, owner => by
    rw [strictifyFields, declared, declared, List.map_append, List.map_cons,
      declaredInField_strictifyField f, declared_strictifyFields rest,
      attributes_strictifyField]
    rfl
  termination_by structural fields => fields

theorem declaredInField_strictifyField :
    ∀ (f : Field) (path : String) (place : Json.Address),
    declaredInField path place (strictifyField f)
      = (declaredInField path place f).map strictifyDeclaration
  | ⟨attributes, shape, items⟩, path, place => by
    have hshape := declaredInShape_strictifyShape shape path place
    have hitems := declaredInItems_strictifyItems items path place
    have hkind : (strictifyAttributes attributes).kind = attributes.kind := rfl
    rw [strictifyField, declaredInField, declaredInField, hkind]
    cases attributes.kind with
    | object => exact hshape
    | array => exact hitems
    | _ => rfl
  termination_by structural f => f

theorem declaredInShape_strictifyShape : ∀ (shape : Option Shape) (path : String)
    (place : Json.Address), declaredInShape path place (strictifyShape shape)
      = (declaredInShape path place shape).map strictifyDeclaration
  | none, _, _ => rfl
  | some (.schema ⟨_, _, fields, _⟩), path, place =>
    declared_strictifyFields fields (path ++ ".") place
  | some (.inline fields _), path, place =>
    declared_strictifyFields fields (path ++ ".") place
  | some (.map _), _, _ => rfl
  termination_by structural shape => shape

theorem declaredInItems_strictifyItems : ∀ (items : Option Items) (path : String)
    (place : Json.Address), declaredInItems path place (strictifyItems items)
      = (declaredInItems path place items).map strictifyDeclaration
  | none, _, _ => rfl
  | some (.schema ⟨_, _, fields, _⟩), path, _ =>
    declared_strictifyFields fields (path ++ "[].") _
  | some (.fragment _), _, _ => rfl
  termination_by structural items => items

end

/-- The OpenAI document has every declared field, and requires it. -/
theorem written_declarations {s : Schema} (h : s.Distinct) {d : Declaration}
    (hd : d ∈ s.declarations) :
    ((Provider.openAI.compile s).at? d.place).isSome
      ∧ d.requiredIn (Provider.openAI.compile s) = true := by
  have hmem : strictifyDeclaration d ∈ (strictify s).declarations := by
    rw [Schema.declarations, strictify, declared_strictifyFields]
    exact List.mem_map_of_mem hd
  have hnames : (strictify s).Holds (fun fields => fields.names.Nodup) fun _ => True := by
    refine holds_strictify (fun fields hfields => ?_) (fun _ _ => trivial) h
    rwa [names_strictifyFields]
  have hwritten := Ollama.keeps.written_declarations hnames _ hmem
  rw [← rules_compile] at hwritten
  exact ⟨hwritten.isSome, hwritten.requiredIn⟩

end OpenAI

/-! ## Optional fields as a disagreement -/

theorem Provider.written_declarations {p : Provider} (hp : p ≠ openAI) {s : Schema}
    (h : s.Distinct) {d : Declaration} (hd : d ∈ s.declarations) :
    d.WrittenIn (p.compile s) := by
  cases p with
  | openAI => exact absurd rfl hp
  | anthropic => exact Anthropic.keeps.written_declarations h d hd
  | gemini => exact Gemini.keeps.written_declarations h d hd
  | ollama => exact Ollama.keeps.written_declarations h d hd

/-- The optional fields are what strict mode and a plain dialect disagree about: those that
the OpenAI document requires and the other does not, in the order in which they are
declared. Every document has each declared field, in a place of its own. -/
theorem Provider.optionalFields_eq_requiredOnlyIn {p : Provider} (hp : p ≠ openAI)
    {s : Schema} (h : s.Distinct) :
    s.optionalFields = (s.requiredOnlyIn (openAI.compile s) (p.compile s)).map (·.path)
      ∧ (s.declarations.map Declaration.place).Nodup
      ∧ ∀ d ∈ s.declarations, ((openAI.compile s).at? d.place).isSome
        ∧ ((p.compile s).at? d.place).isSome := by
  refine ⟨?_, (standApart_declared s.fields "" [] h).nodup, fun d hd =>
    ⟨(OpenAI.written_declarations h hd).1, (written_declarations hp h hd).isSome⟩⟩
  have hflags : s.requiredOnlyIn (openAI.compile s) (p.compile s)
      = s.declarations.filter (!·.attributes.required) := by
    apply List.filter_congr
    intro d hd
    rw [(OpenAI.written_declarations h hd).2, (written_declarations hp h hd).requiredIn,
      Bool.true_and]
  rw [hflags]
  exact optionalPaths_eq s.fields "" []

/-- A parcel: a recipient with two fields that may be left out, a map that may be left out,
and lines with a note that may be left out. -/
def parcel : Schema where
  name := "Parcel"
  description := ""
  fields := [
    ("recipient", {
      attributes := { kind := .object }
      shape := some (.inline [
        ("name", ⟨{ kind := .string }, none, none⟩),
        ("email", ⟨{ kind := .string, required := false }, none, none⟩),
        ("phone", ⟨{ kind := .string, required := false }, none, none⟩)] false)
      items := none }),
    ("labels", {
      attributes := { kind := .object, required := false }
      shape := some (.map (.object [("type", .string "string")]))
      items := none }),
    ("lines", {
      attributes := { kind := .array }
      shape := none
      items := some (.schema ⟨"Line", "", [
        ("note", ⟨{ kind := .string, required := false }, none, none⟩)], false⟩) })]
  allowsExtra := false

theorem distinct_parcel : parcel.Distinct := by
  simp [parcel, Schema.Distinct, Schema.Holds, FieldsHold, FieldHolds, ShapeHolds,
    ItemsHold, Value.Distinct, Value.DistinctMembers]

/-- In the Gemini document the lines require nothing, the recipient a name and the parcel
no labels. -/
theorem requiredOnlyIn_parcel :
    parcel.Distinct
      ∧ parcel.optionalFields
        = ["recipient.email", "recipient.phone", "labels", "lines[].note"]
      ∧ (parcel.requiredOnlyIn (Provider.openAI.compile parcel)
        (Provider.gemini.compile parcel)).map (·.path)
          = ["recipient.email", "recipient.phone", "labels", "lines[].note"] := by
  have hpaths : parcel.optionalFields
      = ["recipient.email", "recipient.phone", "labels", "lines[].note"] := by decide
  obtain ⟨hfields, -, -⟩ :=
    Provider.optionalFields_eq_requiredOnlyIn (p := .gemini) (by decide) distinct_parcel
  exact ⟨distinct_parcel, hpaths, hfields ▸ hpaths⟩

end StructuredOutput
