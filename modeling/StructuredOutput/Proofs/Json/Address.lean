import StructuredOutput.Proofs.Json.Level

/-!
# Addresses

An address leads from a document down to a value in it, member by member and item by item.
`Value.at?` follows one, `Value.memberAddresses` lists those of all members at any depth,
and `Value.prune` takes out the members at the addresses that a test picks. Since `prune`
touches nothing else and moves nothing, it says of a pass over documents exactly what the
pass takes away or adds. The main statements are that pruning leaves a value as it is just
if no member is picked, and that to prune twice is to prune once by either test.
-/

namespace StructuredOutput.Json

/-- One step down in a document: to a member of an object, or to an item of an array. -/
inductive Edge where
  | member (name : String)
  | item (index : Nat)
  deriving DecidableEq

/-- The steps from a document to a value in it. -/
abbrev Address := List Edge

/-- The value at the end of an edge. -/
def Edge.follow : Edge → Value → Option Value
  | .member name, .object ms => List.lookup name ms
  | .item index, .array vs => vs[index]?
  | _, _ => none

namespace Value

/-- The value at an address. -/
def at? (v : Value) : Address → Option Value
  | [] => some v
  | edge :: rest => (edge.follow v).bind fun w => w.at? rest

mutual

/-- The addresses of the members of all objects in the value, each before those inside
it. -/
def memberAddresses : Value → List Address
  | .object ms => addressesOfMembers ms
  | .array vs => addressesInItems 0 vs
  | _ => []
  termination_by structural v => v

def addressesOfMembers : List (String × Value) → List Address
  | [] => []
  | (name, v) :: rest =>
    [.member name] :: v.memberAddresses.map (.member name :: ·) ++ addressesOfMembers rest
  termination_by structural ms => ms

/-- The same for the items from `index` on. -/
def addressesInItems (index : Nat) : List Value → List Address
  | [] => []
  | v :: rest =>
    v.memberAddresses.map (.item index :: ·) ++ addressesInItems (index + 1) rest
  termination_by structural vs => vs

end

mutual

/-- The value without the members at the addresses that the test picks. -/
def prune (drop : Address → Bool) : Value → Value
  | .object ms => .object (pruneMembers drop ms)
  | .array vs => .array (pruneItems drop 0 vs)
  | v => v
  termination_by structural v => v

def pruneMembers (drop : Address → Bool) : List (String × Value) → Entries Value
  | [] => []
  | (name, v) :: rest =>
    if drop [.member name] then pruneMembers drop rest
    else (name, v.prune fun address => drop (.member name :: address))
      :: pruneMembers drop rest
  termination_by structural ms => ms

/-- The same for the items from `index` on. -/
def pruneItems (drop : Address → Bool) (index : Nat) : List Value → List Value
  | [] => []
  | v :: rest =>
    (v.prune fun address => drop (.item index :: address))
      :: pruneItems drop (index + 1) rest
  termination_by structural vs => vs

end

/-! ## Following addresses -/

@[simp] theorem at?_nil (v : Value) : v.at? [] = some v := rfl

theorem at?_cons (v : Value) (edge : Edge) (rest : Address) :
    v.at? (edge :: rest) = (edge.follow v).bind fun w => w.at? rest := rfl

theorem at?_append (v : Value) (above below : Address) :
    v.at? (above ++ below) = (v.at? above).bind fun w => w.at? below := by
  induction above generalizing v with
  | nil => rfl
  | cons edge rest ih =>
    rw [List.cons_append, at?_cons, at?_cons]
    cases edge.follow v with
    | none => rfl
    | some w => exact ih w

theorem at?_member (ms : Entries Value) (name : String) :
    (object ms).at? [.member name] = ms.lookup name := by
  show ((ms.lookup name).bind fun w => w.at? []) = ms.lookup name
  cases ms.lookup name <;> rfl

/-- Only an object has a member, which stands under its keyword. -/
theorem at?_member_cons {v w : Value} {keyword : String} {below : Address}
    (h : v.at? (.member keyword :: below) = some w) :
    ∃ level u, v = object level ∧ level.lookup keyword = some u
      ∧ u.at? below = some w := by
  rw [at?_cons] at h
  obtain ⟨u, hu, hw⟩ := Option.bind_eq_some_iff.mp h
  cases v with
  | object level => exact ⟨level, u, rfl, hu, hw⟩
  | _ => cases hu

/-- Only an array has an item. -/
theorem object?_eq_none_of_at?_item {v w : Value} {index : Nat} {below : Address}
    (h : v.at? (.item index :: below) = some w) : v.object? = none := by
  cases v with
  | object level => cases h
  | _ => rfl

/-- In a value of distinct names, what stands at an address has distinct names too. -/
theorem Distinct.at? {v w : Value} (h : v.Distinct) {address : Address}
    (hw : v.at? address = some w) : w.Distinct := by
  induction address generalizing v with
  | nil =>
    cases hw
    exact h
  | cons edge rest ih =>
    obtain ⟨u, hu, hw⟩ := Option.bind_eq_some_iff.mp hw
    refine ih ?_ hw
    cases edge with
    | member name =>
      cases v with
      | object ms => exact distinctMembers_iff.mp h.2 _ (Entries.mem_of_lookup hu)
      | _ => cases hu
    | item index =>
      cases v with
      | array vs => exact distinctItems_iff.mp h _ (List.mem_of_getElem? hu)
      | _ => cases hu

/-! ## What is pruned -/

theorem length_pruneMembers_le (drop : Address → Bool) (ms : Entries Value) :
    (pruneMembers drop ms).length ≤ ms.length := by
  induction ms with
  | nil => exact Nat.le_refl _
  | cons m rest ih =>
    rw [pruneMembers]
    split
    · exact Nat.le_succ_of_le ih
    · exact Nat.succ_le_succ ih

mutual

theorem prune_eq_self_iff (drop : Address → Bool) : ∀ v : Value,
    v.prune drop = v ↔ ∀ address ∈ v.memberAddresses, drop address = false
  | .object ms => by
    rw [prune, memberAddresses, ← pruneMembers_eq_self_iff drop ms]
    exact ⟨fun h => by injection h, fun h => by rw [h]⟩
  | .array vs => by
    rw [prune, memberAddresses, ← pruneItems_eq_self_iff drop 0 vs]
    exact ⟨fun h => by injection h, fun h => by rw [h]⟩
  | .null => by simp [prune, memberAddresses]
  | .boolean _ => by simp [prune, memberAddresses]
  | .number _ => by simp [prune, memberAddresses]
  | .string _ => by simp [prune, memberAddresses]
  termination_by structural v => v

theorem pruneMembers_eq_self_iff (drop : Address → Bool) : ∀ ms : List (String × Value),
    pruneMembers drop ms = ms ↔ ∀ address ∈ addressesOfMembers ms, drop address = false
  | [] => by simp [pruneMembers, addressesOfMembers]
  | (name, v) :: rest => by
    have hvalue := prune_eq_self_iff (fun address => drop (.member name :: address)) v
    have hrest := pruneMembers_eq_self_iff drop rest
    rw [pruneMembers, addressesOfMembers]
    cases hdrop : drop [.member name] with
    | true =>
      -- What is left has one member too few.
      refine ⟨fun h => ?_, fun h => ?_⟩
      · have hlength := congrArg List.length h
        have hle := length_pruneMembers_le drop rest
        simp only [if_true, List.length_cons] at hlength
        omega
      · have hpicked := h [.member name] List.mem_cons_self
        rw [hdrop] at hpicked
        cases hpicked
    | false => simp [hdrop, hvalue, hrest, or_imp, forall_and]
  termination_by structural ms => ms

theorem pruneItems_eq_self_iff (drop : Address → Bool) (index : Nat) : ∀ vs : List Value,
    pruneItems drop index vs = vs ↔
      ∀ address ∈ addressesInItems index vs, drop address = false
  | [] => by simp [pruneItems, addressesInItems]
  | v :: rest => by
    have hvalue := prune_eq_self_iff (fun address => drop (.item index :: address)) v
    have hrest := pruneItems_eq_self_iff drop (index + 1) rest
    simp [pruneItems, addressesInItems, hvalue, hrest, or_imp, forall_and]
  termination_by structural vs => vs

end

mutual

/-- Pruning by one test and then by another is pruning by both: what is left keeps its
address. -/
theorem prune_prune (first second : Address → Bool) : ∀ v : Value,
    (v.prune first).prune second = v.prune fun address => first address || second address
  | .object ms => congrArg object (pruneMembers_pruneMembers first second ms)
  | .array vs => congrArg array (pruneItems_pruneItems first second 0 vs)
  | .null => rfl
  | .boolean _ => rfl
  | .number _ => rfl
  | .string _ => rfl
  termination_by structural v => v

theorem pruneMembers_pruneMembers (first second : Address → Bool) :
    ∀ ms : List (String × Value), pruneMembers second (pruneMembers first ms)
      = pruneMembers (fun address => first address || second address) ms
  | [] => rfl
  | (name, v) :: rest => by
    have hvalue := prune_prune (fun address => first (.member name :: address))
      (fun address => second (.member name :: address)) v
    have hrest := pruneMembers_pruneMembers first second rest
    rw [pruneMembers, pruneMembers]
    cases hfirst : first [.member name] with
    | true => simpa using hrest
    | false =>
      cases hsecond : second [.member name] <;> simp [pruneMembers, hsecond, hvalue, hrest]
  termination_by structural ms => ms

theorem pruneItems_pruneItems (first second : Address → Bool) (index : Nat) :
    ∀ vs : List Value,
    pruneItems second index (pruneItems first index vs)
      = pruneItems (fun address => first address || second address) index vs
  | [] => rfl
  | v :: rest => by
    have hvalue := prune_prune (fun address => first (.item index :: address))
      (fun address => second (.item index :: address)) v
    have hrest := pruneItems_pruneItems first second (index + 1) rest
    rw [pruneItems, pruneItems, pruneItems, hvalue, hrest]
  termination_by structural vs => vs

end

/-- What is left has no member that the test picks. -/
theorem not_drop_of_mem_prune {drop : Address → Bool} {v : Value} {address : Address}
    (h : address ∈ (v.prune drop).memberAddresses) : drop address = false := by
  have hagain : (v.prune drop).prune drop = v.prune drop := by
    rw [prune_prune]
    simp only [Bool.or_self]
  exact (prune_eq_self_iff drop _).mp hagain address h

theorem prune_of_forall {drop : Address → Bool} (h : ∀ address, drop address = false)
    (v : Value) : v.prune drop = v :=
  (prune_eq_self_iff drop v).mpr fun address _ => h address

/-! ## Pruning level by level -/

/-- Members are picked by name, and each value is pruned by what the test says below that
name. -/
theorem pruneMembers_eq (drop : Address → Bool) (ms : Entries Value) :
    pruneMembers drop ms
      = (ms.keepNames fun name => !drop [.member name]).mapValues fun name v =>
        v.prune fun address => drop (.member name :: address) := by
  induction ms with
  | nil => rfl
  | cons m rest ih =>
    obtain ⟨name, v⟩ := m
    rw [pruneMembers, ih]
    by_cases h : drop [.member name] <;> simp [h, Entries.keepNames]

theorem pruneMembers_append (drop : Address → Bool) (es fs : Entries Value) :
    pruneMembers drop (es ++ fs) = pruneMembers drop es ++ pruneMembers drop fs := by
  simp only [pruneMembers_eq, Entries.keepNames_append, Entries.mapValues_append]

theorem pruneItems_of_forall {drop : Address → Bool}
    (h : ∀ index address, drop (.item index :: address) = false) (index : Nat)
    (vs : List Value) : pruneItems drop index vs = vs := by
  induction vs generalizing index with
  | nil => rfl
  | cons v rest ih => rw [pruneItems, prune_of_forall (h index), ih]

theorem pruneMembers_of_forall {drop : Address → Bool}
    (h : ∀ name address, drop (.member name :: address) = false) (ms : Entries Value) :
    pruneMembers drop ms = ms := by
  induction ms with
  | nil => rfl
  | cons m rest ih =>
    obtain ⟨name, v⟩ := m
    rw [pruneMembers, h, prune_of_forall (h name), ih]
    rfl

/-- Where the test says the same below every item, the items are pruned alike. -/
theorem pruneItems_eq_map {drop : Address → Bool} {f : Value → Value}
    (h : ∀ index, (prune fun address => drop (.item index :: address)) = f) (index : Nat)
    (vs : List Value) : pruneItems drop index vs = vs.map f := by
  induction vs generalizing index with
  | nil => rfl
  | cons v rest ih => rw [pruneItems, ih, h, List.map_cons]

/-- Items that were rewritten are what they were if pruning undoes it for each. -/
theorem pruneItems_map_eq_self {drop : Address → Bool} {f : Value → Value} {index : Nat}
    {vs : List Value} (h : ∀ place v, vs[place]? = some v →
      (f v).prune (fun address => drop (.item (index + place) :: address)) = v) :
    pruneItems drop index (vs.map f) = vs := by
  induction vs generalizing index with
  | nil => rfl
  | cons v rest ih =>
    have hfirst := h 0 v rfl
    have hrest : pruneItems drop (index + 1) (rest.map f) = rest := by
      apply ih
      intro place w hw
      have hnext := h (place + 1) w hw
      rwa [← Nat.add_assoc, Nat.add_right_comm] at hnext
    rw [List.map_cons, pruneItems, hrest]
    exact congrArg (· :: rest) hfirst

/-- A test that picks nothing below items finds nothing to prune but in an object. -/
theorem prune_of_object?_eq_none {drop : Address → Bool}
    (h : ∀ index address, drop (.item index :: address) = false) {v : Value}
    (hv : v.object? = none) : v.prune drop = v := by
  cases v with
  | object ms => cases hv
  | array vs => exact congrArg array (pruneItems_of_forall h 0 vs)
  | _ => rfl

mutual

/-- The document itself is no member, so that the test is not asked about its address. -/
theorem prune_congr {first second : Address → Bool}
    (h : ∀ address ≠ [], first address = second address) : ∀ v : Value,
    v.prune first = v.prune second
  | .object ms => congrArg object (pruneMembers_congr h ms)
  | .array vs => congrArg array (pruneItems_congr h 0 vs)
  | .null => rfl
  | .boolean _ => rfl
  | .number _ => rfl
  | .string _ => rfl
  termination_by structural v => v

theorem pruneMembers_congr {first second : Address → Bool}
    (h : ∀ address ≠ [], first address = second address) : ∀ ms : List (String × Value),
    pruneMembers first ms = pruneMembers second ms
  | [] => rfl
  | (name, v) :: rest => by
    rw [pruneMembers, pruneMembers, h _ (List.cons_ne_nil _ _),
      prune_congr (fun address _ => h _ (List.cons_ne_nil _ address)) v,
      pruneMembers_congr h rest]
  termination_by structural ms => ms

theorem pruneItems_congr {first second : Address → Bool}
    (h : ∀ address ≠ [], first address = second address) (index : Nat) : ∀ vs : List Value,
    pruneItems first index vs = pruneItems second index vs
  | [] => rfl
  | v :: rest => by
    rw [pruneItems, pruneItems,
      prune_congr (fun address _ => h _ (List.cons_ne_nil _ address)) v,
      pruneItems_congr h (index + 1) rest]
  termination_by structural vs => vs

end

end Value

end StructuredOutput.Json
