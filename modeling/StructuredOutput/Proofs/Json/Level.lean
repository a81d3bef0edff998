import StructuredOutput.Json.Value
import StructuredOutput.Proofs.Entries

/-!
# Levels of a document

A document is read level by level: an object is a level, and the levels below it stand
under its keywords, either directly (`items`) or one step further down, as the members of
`properties` or the items of `anyOf`. `Value.levelInduction` is the induction that goes
with it. Beside it stand the two ways to rewrite what a value holds, and `Value.Distinct`:
no object, at any depth, has two members of one name, which is what every parsed text
gives.
-/

namespace StructuredOutput.Json.Value

/-! ## Induction over levels -/

/-- A property of a value and of everything that stands directly in it. -/
structure Near (motive : Value → Prop) (v : Value) : Prop where
  self : motive v
  members : ∀ ms, v.object? = some ms → ∀ m ∈ ms, motive m.2
  items : ∀ vs, v.array? = some vs → ∀ w ∈ vs, motive w

section

variable {motive : Value → Prop}

theorem Near.of_leaf {v : Value} (h : motive v) (hms : v.object? = none)
    (hvs : v.array? = none) : Near motive v where
  self := h
  members := by
    intro ms he
    rw [hms] at he
    cases he
  items := by
    intro vs he
    rw [hvs] at he
    cases he

variable (leaf : ∀ v, v.object? = none → motive v)
  (level : ∀ ms : Entries Value, (∀ m ∈ ms, Near motive m.2) → motive (.object ms))

include leaf level

-- `Near` looks one step further down than the recursion on values, so it is proved along
-- with it.
set_option linter.unusedSectionVars false in
mutual

theorem near : ∀ v, Near motive v
  | .object ms => by
    have h := near_members ms
    refine ⟨level ms h, ?_, fun _ he => (nomatch he)⟩
    intro _ he m hm
    cases he
    exact (h m hm).self
  | .array vs => by
    have h := near_items vs
    refine ⟨leaf _ rfl, fun _ he => (nomatch he), ?_⟩
    intro _ he w hw
    cases he
    exact (h w hw).self
  | .null => .of_leaf (leaf _ rfl) rfl rfl
  | .boolean _ => .of_leaf (leaf _ rfl) rfl rfl
  | .number _ => .of_leaf (leaf _ rfl) rfl rfl
  | .string _ => .of_leaf (leaf _ rfl) rfl rfl
  termination_by structural v => v

theorem near_members : ∀ ms : List (String × Value), ∀ m ∈ ms, Near motive m.2
  | [], _, h => by cases h
  | (_, v) :: rest, m, h => by
    rcases List.mem_cons.mp h with h | h
    · rw [h]
      exact near v
    · exact near_members rest m h
  termination_by structural ms => ms

theorem near_items : ∀ vs : List Value, ∀ w ∈ vs, Near motive w
  | [], _, h => by cases h
  | v :: rest, w, h => by
    rcases List.mem_cons.mp h with h | h
    · rw [h]
      exact near v
    · exact near_items rest w h
  termination_by structural vs => vs

end

/-- What holds of every value that is no object, and of an object if it holds near its
members, holds of every value. -/
@[elab_as_elim] theorem levelInduction (v : Value) : motive v := (near leaf level v).self

end

theorem eq_object_of_object? {v : Value} {ms : Entries Value} (h : v.object? = some ms) :
    v = .object ms := by
  cases v with
  | object _ =>
    cases h
    rfl
  | _ => cases h

/-! ## Rewriting what a value holds -/

/-- Rewrites the members of an object. -/
def mapMembers (f : Value → Value) : Value → Value
  | .object ms => .object (Entries.mapValues (fun _ => f) ms)
  | v => v

/-- Rewrites the level that an object is. -/
def mapLevel (f : Entries Value → Entries Value) : Value → Value
  | .object ms => .object (f ms)
  | v => v

/-- Rewrites the items of an array. -/
def mapItems (f : Value → Value) : Value → Value
  | .array vs => .array (vs.map f)
  | v => v

theorem mapMembers_mapMembers (f g : Value → Value) (v : Value) :
    (v.mapMembers f).mapMembers g = v.mapMembers fun w => g (f w) := by
  cases v with
  | object ms => exact congrArg object (Entries.mapValues_mapValues _ _ ms)
  | _ => rfl

theorem mapItems_mapItems (f g : Value → Value) (v : Value) :
    (v.mapItems f).mapItems g = v.mapItems fun w => g (f w) := by
  cases v with
  | array vs => simp [mapItems]
  | _ => rfl

section

variable {motive : Value → Prop} {f g : Value → Value} (h : ∀ w, motive w → f w = g w)

include h

theorem Near.mapMembers_congr {v : Value} (hv : Near motive v) :
    v.mapMembers f = v.mapMembers g := by
  cases v with
  | object ms =>
    have hms := hv.members ms rfl
    exact congrArg object (Entries.mapValues_congr fun m hm => h m.2 (hms m hm))
  | _ => rfl

theorem Near.mapItems_congr {v : Value} (hv : Near motive v) :
    v.mapItems f = v.mapItems g := by
  cases v with
  | array vs =>
    have hvs := hv.items vs rfl
    exact congrArg array (List.map_congr_left fun w hw => h w (hvs w hw))
  | _ => rfl

end

@[simp] theorem object?_mapMembers (f : Value → Value) (v : Value) :
    (v.mapMembers f).object? = v.object?.map (Entries.mapValues fun _ => f) := by
  cases v <;> rfl

/-! ## Distinct names -/

mutual

/-- No object in the value has two members of one name. -/
def Distinct : Value → Prop
  | .object ms => (Entries.names ms).Nodup ∧ DistinctMembers ms
  | .array vs => DistinctItems vs
  | _ => True
  termination_by structural v => v

def DistinctMembers : List (String × Value) → Prop
  | [] => True
  | (_, v) :: rest => Distinct v ∧ DistinctMembers rest
  termination_by structural ms => ms

def DistinctItems : List Value → Prop
  | [] => True
  | v :: rest => Distinct v ∧ DistinctItems rest
  termination_by structural vs => vs

end

theorem distinctMembers_iff {ms : Entries Value} :
    DistinctMembers ms ↔ ∀ m ∈ ms, m.2.Distinct := by
  induction ms with
  | nil => simp [DistinctMembers]
  | cons m rest ih =>
    obtain ⟨name, v⟩ := m
    simp [DistinctMembers, ih]

theorem distinctItems_iff {vs : List Value} : DistinctItems vs ↔ ∀ v ∈ vs, v.Distinct := by
  induction vs with
  | nil => simp [DistinctItems]
  | cons v rest ih => simp [DistinctItems, ih]

end StructuredOutput.Json.Value
