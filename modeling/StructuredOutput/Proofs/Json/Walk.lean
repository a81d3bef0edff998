import StructuredOutput.Proofs.Json.Address

/-!
# Walks

A pass over documents goes from level to level. It decides by the keyword what stands
below: a level itself, one under each name, one at each place, or nothing that concerns it.
A `Walk` is that decision, `Walk.reaches` recognizes the addresses of the levels that it
leads to, and `Walk.marks` those of the members of picked names there. The main statements
say how marked members are pruned, level by level, and what stands at a reached address
after a pass that follows the walk.
-/

namespace StructuredOutput.Json

/-- Where the levels below a keyword are. -/
inductive Below where
  | nowhere
  /-- The value is a level. -/
  | value
  /-- The members of the value are levels, whatever their names. -/
  | members
  /-- The items of the value are levels. -/
  | items

/-- Rewrites the levels below a keyword in its value. -/
def Below.rewrite (f : Value → Value) : Below → Value → Value
  | nowhere, v => v
  | value, v => f v
  | members, v => v.mapMembers f
  | items, v => v.mapItems f

theorem Below.rewrite_congr {f g : Value → Value} {v : Value}
    (h : v.Near fun w => f w = g w) (below : Below) :
    below.rewrite f v = below.rewrite g v := by
  cases below with
  | nowhere => rfl
  | value => exact h.self
  | members => exact h.mapMembers_congr fun _ hw => hw
  | items => exact h.mapItems_congr fun _ hw => hw

/-- Where the levels of a document are, keyword by keyword. -/
abbrev Walk := String → Below

namespace Walk

/-- Whether the walk leads from a level to the address. -/
def reaches (walk : Walk) : Address → Bool
  | [] => true
  | .item _ :: _ => false
  | .member keyword :: rest =>
    match walk keyword with
    | .nowhere => false
    | .value => walk.reaches rest
    | .members =>
      match rest with
      | .member _ :: below => walk.reaches below
      | _ => false
    | .items =>
      match rest with
      | .item _ :: below => walk.reaches below
      | _ => false

/-- Whether the address is that of a keyword with a picked name, at a level that the walk
reaches. -/
def marks (walk : Walk) (picked : String → Bool) (address : Address) : Bool :=
  match address.getLast? with
  | some (.member keyword) => picked keyword && walk.reaches address.dropLast
  | _ => false

variable {walk : Walk} {picked : String → Bool} {keyword : String}

/-! ## Addresses, step by step -/

theorem reaches_of_nowhere (h : walk keyword = .nowhere) (rest : Address) :
    walk.reaches (.member keyword :: rest) = false := by
  unfold reaches
  simp only [h]

theorem reaches_of_value (h : walk keyword = .value) (rest : Address) :
    walk.reaches (.member keyword :: rest) = walk.reaches rest := by
  rw [reaches.eq_def]
  simp only [h]

theorem reaches_of_members (h : walk keyword = .members) (name : String) (rest : Address) :
    walk.reaches (.member keyword :: .member name :: rest) = walk.reaches rest := by
  simp [reaches, h]

theorem reaches_item_of_members (h : walk keyword = .members) (index : Nat)
    (rest : Address) : walk.reaches (.member keyword :: .item index :: rest) = false := by
  simp [reaches, h]

theorem reaches_of_items (h : walk keyword = .items) (index : Nat) (rest : Address) :
    walk.reaches (.member keyword :: .item index :: rest) = walk.reaches rest := by
  simp [reaches, h]

theorem reaches_member_of_items (h : walk keyword = .items) (name : String)
    (rest : Address) : walk.reaches (.member keyword :: .member name :: rest) = false := by
  simp [reaches, h]

/-- What is reached from a reached level is reached from the document. -/
theorem reaches_append {above : Address} (h : walk.reaches above) (below : Address) :
    walk.reaches (above ++ below) = walk.reaches below := by
  fun_induction reaches walk above with
  | case1 => rfl
  | case2 | case3 | case6 | case8 => cases h
  | case4 keyword rest hk ih => exact (reaches_of_value hk _).trans (ih h)
  | case5 keyword hk name rest ih => exact (reaches_of_members hk name _).trans (ih h)
  | case7 keyword hk index rest ih => exact (reaches_of_items hk index _).trans (ih h)

theorem marks_keyword : walk.marks picked [.member keyword] = picked keyword :=
  Bool.and_true _

/-- The last step of an address is picked, and the others are to be reached. -/
theorem marks_append (above : Address) {address : Address} (ha : address ≠ []) :
    walk.marks picked (above ++ address) =
      match address.getLast? with
      | some (.member keyword) =>
        picked keyword && walk.reaches (above ++ address.dropLast)
      | _ => false := by
  rw [marks, List.getLast?_append, List.getLast?_eq_some_getLast ha, Option.some_or,
    List.dropLast_append_of_ne_nil ha]

theorem marks_append_of_reaches (above : Address)
    (h : ∀ rest, walk.reaches (above ++ rest) = walk.reaches rest) {address : Address}
    (ha : address ≠ []) :
    walk.marks picked (above ++ address) = walk.marks picked address := by
  rw [marks_append above ha, marks]
  simp only [h]

theorem marks_append_of_not_reaches (above : Address)
    (h : ∀ rest, walk.reaches (above ++ rest) = false) {address : Address}
    (ha : address ≠ []) : walk.marks picked (above ++ address) = false := by
  rw [marks_append above ha]
  split
  · rw [h, Bool.and_false]
  · rfl

theorem marks_item (index : Nat) (address : Address) :
    walk.marks picked (.item index :: address) = false := by
  cases address with
  | nil => rfl
  | cons step rest =>
    have hnot (rest : Address) : walk.reaches ([.item index] ++ rest) = false := rfl
    exact marks_append_of_not_reaches _ hnot (List.cons_ne_nil step rest)

theorem marks_of_nowhere (h : walk keyword = .nowhere) {address : Address}
    (ha : address ≠ []) : walk.marks picked (.member keyword :: address) = false :=
  marks_append_of_not_reaches [.member keyword] (reaches_of_nowhere h) ha

theorem marks_of_value (h : walk keyword = .value) {address : Address}
    (ha : address ≠ []) :
    walk.marks picked (.member keyword :: address) = walk.marks picked address :=
  marks_append_of_reaches [.member keyword] (reaches_of_value h) ha

/-- The name of a property is no keyword: at `properties.minimum` nothing is marked. -/
theorem marks_of_members (h : walk keyword = .members) (name : String)
    (address : Address) :
    walk.marks picked (.member keyword :: .member name :: address)
      = walk.marks picked address := by
  cases address with
  | nil => simp [marks, reaches, h]
  | cons step rest =>
    exact marks_append_of_reaches [.member keyword, .member name]
      (reaches_of_members h name) (List.cons_ne_nil step rest)

theorem marks_of_items (h : walk keyword = .items) (index : Nat) (address : Address) :
    walk.marks picked (.member keyword :: .item index :: address)
      = walk.marks picked address := by
  cases address with
  | nil => simp [marks]
  | cons step rest =>
    exact marks_append_of_reaches [.member keyword, .item index] (reaches_of_items h index)
      (List.cons_ne_nil step rest)

theorem marks_item_of_members (h : walk keyword = .members) (index : Nat)
    (address : Address) :
    walk.marks picked (.member keyword :: .item index :: address) = false := by
  cases address with
  | nil => simp [marks]
  | cons step rest =>
    exact marks_append_of_not_reaches [.member keyword, .item index]
      (reaches_item_of_members h index) (List.cons_ne_nil step rest)

theorem marks_member_of_items (h : walk keyword = .items) (name : String)
    (address : Address) :
    walk.marks picked (.member keyword :: .member name :: address) = false := by
  cases address with
  | nil => simp [marks, reaches, h]
  | cons step rest =>
    exact marks_append_of_not_reaches [.member keyword, .member name]
      (reaches_member_of_items h name) (List.cons_ne_nil step rest)

/-! ## Pruning what is marked -/

theorem prune_marks_of_object?_eq_none {v : Value} (h : v.object? = none) :
    v.prune (walk.marks picked) = v :=
  Value.prune_of_object?_eq_none marks_item h

/-- Below a keyword, the levels are pruned and nothing else. -/
theorem prune_marks_below (keyword : String) (v : Value) :
    (v.prune fun address => walk.marks picked (.member keyword :: address))
      = (walk keyword).rewrite (Value.prune (walk.marks picked)) v := by
  cases h : walk keyword with
  | nowhere =>
    rw [Value.prune_congr fun address ha => marks_of_nowhere h ha]
    exact Value.prune_of_forall (fun _ => rfl) v
  | value => exact Value.prune_congr (fun address ha => marks_of_value h ha) v
  | members =>
    cases v with
    | object ms =>
      have hname (name : String) :
          walk.marks picked [.member keyword, .member name] = false :=
        marks_of_members h name []
      rw [Value.prune, Value.pruneMembers_eq]
      simp only [hname, marks_of_members h]
      rw [Entries.keepNames_eq_self fun _ hdrop => by cases hdrop]
      rfl
    | _ => exact Value.prune_of_object?_eq_none (marks_item_of_members h) rfl
  | items =>
    cases v with
    | array vs =>
      have hitem (index : Nat) : Value.prune (fun address =>
          walk.marks picked (.member keyword :: .item index :: address))
          = Value.prune (walk.marks picked) := by
        simp only [marks_of_items h]
      rw [Value.prune, Value.pruneItems_eq_map hitem]
      rfl
    | object ms =>
      rw [Value.prune, Value.pruneMembers_of_forall (marks_member_of_items h)]
      rfl
    | _ => rfl

theorem prune_marks_object (ms : Entries Value) :
    (Value.object ms).prune (walk.marks picked)
      = .object ((ms.keepNames fun name => !picked name).mapValues fun name =>
        (walk name).rewrite (Value.prune (walk.marks picked))) := by
  rw [Value.prune, Value.pruneMembers_eq]
  simp only [marks_keyword, prune_marks_below]

/-! ## Passes along a walk -/

/-- A pass that rewrites the levels that the walk leads to, and nothing but levels. What it
does to the keywords of a level that lead nowhere is left open. -/
structure Follows (walk : Walk) (f : Value → Value) : Prop where
  leaf : ∀ v : Value, v.object? = none → f v = v
  below : ∀ (ms : Entries Value) (keyword : String), walk keyword ≠ .nowhere →
    (Edge.member keyword).follow (f (.object ms))
      = (ms.lookup keyword).map ((walk keyword).rewrite f)

theorem follow_mapMembers (f : Value → Value) (name : String) (v : Value) :
    (Edge.member name).follow (v.mapMembers f) = ((Edge.member name).follow v).map f := by
  cases v with
  | object ms => exact Entries.lookup_mapValues _ name ms
  | _ => rfl

theorem follow_mapItems (f : Value → Value) (index : Nat) (v : Value) :
    (Edge.item index).follow (v.mapItems f) = ((Edge.item index).follow v).map f := by
  cases v with
  | array vs => exact List.getElem?_map
  | _ => rfl

theorem Follows.follow_member {f : Value → Value} (hf : walk.Follows f)
    (h : walk keyword ≠ .nowhere) (v : Value) :
    (Edge.member keyword).follow (f v)
      = ((Edge.member keyword).follow v).map ((walk keyword).rewrite f) := by
  cases v with
  | object ms => exact hf.below ms keyword h
  | _ =>
    rw [hf.leaf _ rfl]
    rfl

/-- After the pass, a reached address holds what the pass makes of what it held before. -/
theorem Follows.at?_of_reaches {f : Value → Value} (hf : walk.Follows f)
    {address : Address} (h : walk.reaches address) (v : Value) :
    (f v).at? address = (v.at? address).map f := by
  fun_induction reaches walk address generalizing v with
  | case1 => rfl
  | case2 | case3 | case6 | case8 => cases h
  | case4 keyword rest hk ih =>
    rw [Value.at?_cons, Value.at?_cons, hf.follow_member (by rw [hk]; nofun), hk]
    cases (Edge.member keyword).follow v with
    | none => rfl
    | some w => exact ih h w
  | case5 keyword hk name below ih =>
    rw [Value.at?_cons, Value.at?_cons, hf.follow_member (by rw [hk]; nofun), hk]
    cases (Edge.member keyword).follow v with
    | none => rfl
    | some w =>
      simp only [Option.map_some, Option.bind_some, Value.at?_cons, Below.rewrite,
        follow_mapMembers]
      cases (Edge.member name).follow w with
      | none => rfl
      | some definition => exact ih h definition
  | case7 keyword hk index below ih =>
    rw [Value.at?_cons, Value.at?_cons, hf.follow_member (by rw [hk]; nofun), hk]
    cases (Edge.member keyword).follow v with
    | none => rfl
    | some w =>
      simp only [Option.map_some, Option.bind_some, Value.at?_cons, Below.rewrite,
        follow_mapItems]
      cases (Edge.item index).follow w with
      | none => rfl
      | some item => exact ih h item

/-! ## Passes that add keywords -/

/-- Whether the address is that of a keyword with a picked name, at a level that the walk
reaches, which the source does not have. -/
def lacks (walk : Walk) (picked : String → Bool) (source : Value)
    (address : Address) : Bool :=
  walk.marks picked address && (source.at? address).isNone

/-- A pass along the walk that adds picked keywords to the levels that lack them, at the
end, and changes nothing else. -/
structure Extends (walk : Walk) (picked : String → Bool) (f : Value → Value) : Prop where
  leaf : ∀ v : Value, v.object? = none → f v = v
  level : ∀ ms : Entries Value, ∃ added : Entries Value,
    f (.object ms)
      = .object (ms.mapValues (fun keyword => (walk keyword).rewrite f) ++ added)
      ∧ ∀ e ∈ added, picked e.1 ∧ ms.lookup e.1 = none
  nowhere : ∀ keyword, picked keyword → walk keyword = .nowhere

namespace Extends

variable {f : Value → Value} (hf : walk.Extends picked f)

include hf

theorem follows : walk.Follows f where
  leaf := hf.leaf
  below ms keyword h := by
    obtain ⟨added, hlevel, hadded⟩ := hf.level ms
    have hnone : added.lookup keyword = none := by
      apply Entries.lookup_eq_none_iff.mpr
      rintro e he rfl
      exact h (hf.nowhere _ (hadded e he).1)
    rw [hlevel, Edge.follow, Entries.lookup_append, Entries.lookup_mapValues, hnone,
      Option.or_none]

omit hf in
theorem lacks_below {ms : Entries Value} {v : Value} (h : ms.lookup keyword = some v)
    (address : Address) : walk.lacks picked (.object ms) (.member keyword :: address)
      = (walk.marks picked (.member keyword :: address) && (v.at? address).isNone) := by
  rw [lacks, Value.at?_cons, Edge.follow, h]
  rfl

omit hf in
/-- Pruning undoes the pass in a member that holds levels by name if it does so for each of
them. -/
theorem prune_lacks_members {v : Value} (hk : walk keyword = .members)
    (hdistinct : v.Distinct)
    (h : v.Near fun w => w.Distinct → (f w).prune (walk.lacks picked w) = w) :
    (v.mapMembers f).prune (fun address =>
      walk.marks picked (.member keyword :: address) && (v.at? address).isNone) = v := by
  cases v with
  | object definitions =>
    have hname (name : String) :
        walk.marks picked [.member keyword, .member name] = false :=
      marks_of_members hk name []
    rw [Value.mapMembers, Value.prune, Value.pruneMembers_eq]
    simp only [hname, marks_of_members hk, Bool.false_and, Bool.not_false]
    rw [Entries.keepNames_eq_self (fun _ hdrop => by cases hdrop),
      Entries.mapValues_mapValues]
    congr 1
    apply Entries.mapValues_eq_self
    intro e he
    simp only [Value.at?_cons, Edge.follow, Entries.lookup_of_mem hdistinct.1 he,
      Option.bind_some]
    exact h.members definitions rfl e he (Value.distinctMembers_iff.mp hdistinct.2 e he)
  | _ =>
    refine Value.prune_of_object?_eq_none (fun index address => ?_) rfl
    rw [marks_item_of_members hk, Bool.false_and]

omit hf in
/-- Pruning undoes the pass in a member that holds a list of levels if it does so for each
of them. -/
theorem prune_lacks_items {v : Value} (hk : walk keyword = .items) (hdistinct : v.Distinct)
    (h : v.Near fun w => w.Distinct → (f w).prune (walk.lacks picked w) = w) :
    (v.mapItems f).prune (fun address =>
      walk.marks picked (.member keyword :: address) && (v.at? address).isNone) = v := by
  cases v with
  | array vs =>
    rw [Value.mapItems, Value.prune]
    congr 1
    apply Value.pruneItems_map_eq_self
    intro place w hw
    have hmem := List.mem_of_getElem? hw
    simp only [marks_of_items hk, Value.at?_cons, Edge.follow, Nat.zero_add, hw,
      Option.bind_some]
    exact h.items vs rfl w hmem (Value.distinctItems_iff.mp hdistinct w hmem)
  | object definitions =>
    show Value.prune _ (.object definitions) = .object definitions
    rw [Value.prune, Value.pruneMembers_of_forall]
    intro name address
    rw [marks_member_of_items hk, Bool.false_and]
  | _ => rfl

omit hf in
/-- Pruning undoes the pass below a keyword if it does so for the levels there. -/
theorem prune_lacks_below {ms : Entries Value} {v : Value}
    (hv : ms.lookup keyword = some v) (hdistinct : v.Distinct)
    (h : v.Near fun w => w.Distinct → (f w).prune (walk.lacks picked w) = w) :
    ((walk keyword).rewrite f v).prune
        (fun address => walk.lacks picked (.object ms) (.member keyword :: address))
      = v := by
  simp only [lacks_below hv]
  cases hk : walk keyword with
  | nowhere =>
    rw [Value.prune_congr fun address ha => by rw [marks_of_nowhere hk ha, Bool.false_and]]
    exact Value.prune_of_forall (fun _ => rfl) v
  | value =>
    rw [Value.prune_congr fun address ha => by rw [marks_of_value hk ha]]
    exact h.self hdistinct
  | members => exact prune_lacks_members hk hdistinct h
  | items => exact prune_lacks_items hk hdistinct h

omit hf in
theorem lacks_keyword (ms : Entries Value) (name : String) :
    walk.lacks picked (.object ms) [.member name]
      = (picked name && (ms.lookup name).isNone) := by
  rw [lacks, marks_keyword, Value.at?_member]

omit hf in
/-- What was added is taken out again. -/
theorem prune_lacks_added {ms added : Entries Value}
    (hadded : ∀ e ∈ added, picked e.1 ∧ ms.lookup e.1 = none) :
    Value.pruneMembers (walk.lacks picked (.object ms)) added = [] := by
  have hdrop : added.keepNames (fun name => !walk.lacks picked (.object ms) [.member name])
      = [] := by
    refine List.filter_eq_nil_iff.mpr fun e he => ?_
    obtain ⟨hpicked, hlookup⟩ := hadded e he
    simp [lacks_keyword, hpicked, hlookup]
  rw [Value.pruneMembers_eq, hdrop]
  rfl

omit hf in
/-- What was there stays. -/
theorem keepNames_lacks (ms : Entries Value) :
    Entries.keepNames (fun name => !walk.lacks picked (.object ms) [.member name]) ms
      = ms := by
  apply Entries.keepNames_eq_self
  intro name hdrop
  simp only [lacks_keyword, Bool.not_eq_false', Bool.and_eq_true,
    Option.isNone_iff_eq_none] at hdrop
  exact hdrop.2

/-- Pruning what the source lacks undoes the pass. -/
theorem prune_lacks {v : Value} (h : v.Distinct) :
    (f v).prune (walk.lacks picked v) = v := by
  induction v using Value.levelInduction with
  | leaf v hleaf =>
    rw [hf.leaf v hleaf]
    refine Value.prune_of_object?_eq_none (fun index address => ?_) hleaf
    rw [lacks, marks_item, Bool.false_and]
  | level ms ih =>
    obtain ⟨added, hlevel, hadded⟩ := hf.level ms
    rw [hlevel, Value.prune, Value.pruneMembers_append, prune_lacks_added hadded,
      List.append_nil, Value.pruneMembers_eq, Entries.keepNames_mapValues, keepNames_lacks,
      Entries.mapValues_mapValues]
    congr 1
    apply Entries.mapValues_eq_self
    intro e he
    exact prune_lacks_below (Entries.lookup_of_mem h.1 he)
      (Value.distinctMembers_iff.mp h.2 e he) (ih e he)

end Extends

end Walk

end StructuredOutput.Json
