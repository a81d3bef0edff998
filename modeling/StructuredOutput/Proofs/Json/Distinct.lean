import StructuredOutput.Json.Reader
import StructuredOutput.Proofs.Entries.Assembled
import StructuredOutput.Proofs.Json.Level

/-!
# Distinct names in what is read

The reader keeps the last of several members with one name, so no object that it returns
has two of them. `Returns P` says of a computation that may fail that its result satisfies
`P`, and `Returns.bind` goes from one step to the next. Each part of the reader comes after
those it calls.
-/

namespace StructuredOutput

/-- What is returned satisfies `P`, unless there is an error. -/
def Returns {ε α : Type} (P : α → Prop) : Except ε α → Prop
  | .ok a => P a
  | .error _ => True

section

variable {ε α β : Type} {P : α → Prop} {Q : β → Prop}

theorem returns_true (x : Except ε α) : Returns (fun _ => True) x := by
  cases x <;> trivial

theorem Returns.of_ok {x : Except ε α} (h : Returns P x) {a : α}
    (ha : x = .ok a) : P a := by
  rw [ha] at h
  exact h

theorem Returns.imp {P' : α → Prop} {x : Except ε α} (h : Returns P x)
    (himp : ∀ a, P a → P' a) : Returns P' x := by
  cases x with
  | error e => trivial
  | ok a => exact himp a h

/-- One step after the other. -/
theorem Returns.bind {x : Except ε α} {f : α → Except ε β} (hx : Returns P x)
    (hf : ∀ a, P a → Returns Q (f a)) : Returns Q (x >>= f) := by
  cases x with
  | error e => trivial
  | ok a => exact hf a hx

theorem Returns.map {x : Except ε α} {f : α → β} (hx : Returns P x)
    (hf : ∀ a, P a → Q (f a)) : Returns Q (f <$> x) := by
  cases x with
  | error e => trivial
  | ok a => exact hf a hx

theorem Returns.mapError {ε' : Type} {x : Except ε α} (h : Returns P x) (f : ε → ε') :
    Returns P (x.mapError f) := by
  cases x with
  | error e => trivial
  | ok a => exact h

end

namespace Json

/-- A step of the reader reads something that satisfies `P`, unless it faults. -/
abbrev Gives {α : Type} (P : α → Prop) (x : Except Fault (α × List Char)) : Prop :=
  Returns (fun r => P r.1) x

/-! ## Words and numbers -/

theorem readWord_gives {P : Value → Prop} {value : Value} (h : P value)
    (word s : List Char) : Gives P (readWord value word s) := by
  induction word generalizing s with
  | nil => exact h
  | cons w word ih =>
    cases s with
    | nil => trivial
    | cons c s =>
      rw [readWord]
      split
      · exact ih s
      · trivial

theorem realOf_distinct (negative : Bool) (significand : Nat) (power : Int)
    (rest : List Char) :
    Gives Value.Distinct (realOf negative significand power rest) := by
  unfold realOf
  split <;> trivial

theorem wholeOf_distinct (negative : Bool) (n beyond : Nat) (rest : List Char) :
    Gives Value.Distinct (wholeOf negative n beyond rest) := by
  unfold wholeOf
  split
  · exact realOf_distinct negative n beyond rest
  · split
    · split
      · exact realOf_distinct negative n 0 rest
      · trivial
    · trivial

theorem readExponent_distinct (negative : Bool) (significand : Nat) (power : Int)
    (s : List Char) :
    Gives Value.Distinct (readExponent negative significand power s) := by
  unfold readExponent
  split
  dsimp only
  split
  · trivial
  · split
    · exact realOf_distinct _ _ _ _
    · split
      · exact realOf_distinct _ _ _ _
      · trivial

theorem readFraction_distinct (negative : Bool) (whole beyond : Nat) (s : List Char) :
    Gives Value.Distinct (readFraction negative whole beyond s) := by
  unfold readFraction
  split
  · dsimp only
    split
    · trivial
    · split
      · exact readExponent_distinct _ _ _ _
      · exact readExponent_distinct _ _ _ _
      · exact realOf_distinct _ _ _ _
  · exact readExponent_distinct _ _ _ _
  · exact readExponent_distinct _ _ _ _
  · exact wholeOf_distinct _ _ _ _

theorem readNumber_distinct (negative : Bool) (s : List Char) :
    Gives Value.Distinct (readNumber negative s) := by
  unfold readNumber
  split
  · trivial
  · split
    · trivial
    · split
      · split
        · trivial
        · exact readFraction_distinct _ _ _ _
      · exact readFraction_distinct _ _ _ _

/-! ## Lists and objects -/

theorem readItems_gives {α : Type} {P : α → Prop} {item : Step α}
    (hitem : ∀ s, Gives P (item s)) (count : Nat) (s : List Char) :
    Gives (fun items => ∀ a ∈ items, P a) (readItems item count s) := by
  induction count generalizing s with
  | zero => trivial
  | succ count ih =>
    apply (hitem s).bind
    rintro ⟨first, s⟩ hfirst
    dsimp only
    split
    · trivial
    · exact fun a ha => List.mem_singleton.mp ha ▸ hfirst
    · split
      · trivial
      · trivial
      · apply (ih _).bind
        rintro ⟨others, s⟩ hothers
        exact List.forall_mem_cons.mpr ⟨hfirst, hothers⟩
    · trivial

theorem readList_gives {α : Type} {P : α → Prop} {item : Step α}
    (hitem : ∀ s, Gives P (item s)) (s : List Char) :
    Gives (fun items => ∀ a ∈ items, P a) (readList item s) := by
  unfold readList
  split
  · trivial
  · exact List.forall_mem_nil _
  · exact readItems_gives hitem _ _

section

variable {P : Value → Prop} {value : Step Value} (hvalue : ∀ s, Gives P (value s))

include hvalue

theorem readMember_gives (s : List Char) :
    Gives (fun m => P m.2) (readMember value s) := by
  unfold readMember
  split
  · apply (returns_true _).bind
    rintro ⟨name, s⟩ _
    dsimp only
    split
    · trivial
    · exact (hvalue _).bind fun r hr => hr
    · trivial
  · trivial

theorem readMembers_gives (count : Nat) (s : List Char) :
    Gives (fun members => ∀ m ∈ members, P m.2) (readMembers value count s) := by
  induction count generalizing s with
  | zero => trivial
  | succ count ih =>
    apply (readMember_gives hvalue s).bind
    rintro ⟨first, s⟩ hfirst
    dsimp only
    split
    · trivial
    · exact fun m hm => List.mem_singleton.mp hm ▸ hfirst
    · split
      · trivial
      · trivial
      · apply (ih _).bind
        rintro ⟨others, s⟩ hothers
        exact List.forall_mem_cons.mpr ⟨hfirst, hothers⟩
    · trivial

theorem readObject_gives (s : List Char) :
    Gives (fun members => members.names.Nodup ∧ ∀ m ∈ members, P m.2)
      (readObject value s) := by
  unfold readObject
  split
  · trivial
  · exact ⟨List.nodup_nil, List.forall_mem_nil _⟩
  · apply (readMembers_gives hvalue _ _).bind
    rintro ⟨members, s⟩ hmembers
    obtain ⟨hnodup, hmem⟩ := Entries.collect_spec members
    exact ⟨hnodup, fun m hm => hmembers m (hmem m hm)⟩

end

/-! ## Values -/

theorem readValue_distinct (depth : Nat) (s : List Char) :
    Gives Value.Distinct (readValue depth s) := by
  induction depth using Nat.strongRecOn generalizing s with
  | ind depth ih =>
    unfold readValue
    split
    · trivial
    · dsimp only
      split
      · exact readWord_gives trivial _ _
      · exact readWord_gives trivial _ _
      · exact readWord_gives trivial _ _
      · exact (returns_true _).bind fun _ _ => trivial
      -- The brackets, which are read one level less deep.
      · split
        · trivial
        · rename_i depth
          have hitem := ih depth (Nat.lt_succ_self depth)
          exact (readList_gives hitem _).bind fun r h => Value.distinctItems_iff.mpr h
      · split
        · trivial
        · rename_i depth
          have hvalue := ih depth (Nat.lt_succ_self depth)
          exact (readObject_gives hvalue _).bind fun r h =>
            ⟨h.1, Value.distinctMembers_iff.mpr h.2⟩
      · exact readNumber_distinct _ _
      · split
        · exact readNumber_distinct _ _
        · trivial

/-- No object that is read has two members of one name. -/
theorem Value.parse_distinct (text : String) :
    Returns Value.Distinct (Value.parse text) := by
  unfold parse parseWithin
  refine Returns.mapError ?_ _
  apply (readValue_distinct nestingLimit text.toList).bind
  intro r hvalue
  dsimp only
  split
  · exact hvalue
  · trivial

end Json

end StructuredOutput
