import StructuredOutput.Proofs.Json.Walk
import StructuredOutput.Proofs.OpenAI.Passes

/-!
# Bounds of a document

Where a document has bounds, stated without the cleaning pass: `cleaning` is the walk to
its schema levels, and a bound is a member called `minimum` or `maximum` of such a level.
The main statement is that the pass prunes just these members. A property of that name is
no bound, nor is a member of a default, of a choice or of items given as a list, since the
walk does not lead there.
-/

namespace StructuredOutput.OpenAI

open Json (Below Value Walk)

/-- The schema levels of a document: properties, items, what is said of other names,
alternatives. -/
def cleaning : Walk := fun keyword =>
  if keyword = "properties" then .members
  else if keyword = "items" || keyword = "additionalProperties" then .value
  else if keyword = "anyOf" then .items
  else .nowhere

/-- Whether an address is that of a bound of some schema level. -/
def isBoundAddress (address : Json.Address) : Bool := cleaning.marks isBound address

/-- The pass cleans the levels below a keyword and nothing else. -/
theorem cleanMember_eq (keyword : String) (v : Value) :
    cleanMember keyword v = (cleaning keyword).rewrite withoutBounds v := by
  unfold cleanMember cleaning
  split
  · rfl
  · split
    · rfl
    · split
      · rfl
      · rfl

theorem withoutBounds_eq_prune (d : Value) : withoutBounds d = d.prune isBoundAddress := by
  induction d using Value.levelInduction with
  | leaf v h =>
    rw [withoutBounds_of_object?_eq_none h]
    exact (Walk.prune_marks_of_object?_eq_none h).symm
  | level level ih =>
    show _ = (Value.object level).prune (cleaning.marks isBound)
    rw [Walk.prune_marks_object, withoutBounds, levelWithoutBounds_eq]
    congr 1
    apply Entries.mapValues_congr
    intro e he
    rw [cleanMember_eq]
    exact Below.rewrite_congr (ih e (Entries.mem_keepNames.mp he).1) _

/-- The pass takes away the bounds of a document and nothing else. So none is left, a
document stays as it is just if it has none, and a second pass finds nothing to take
away. -/
theorem withoutBounds_takes_bounds (d : Value) :
    withoutBounds d = d.prune isBoundAddress
      ∧ (∀ address ∈ (withoutBounds d).memberAddresses, isBoundAddress address = false)
      ∧ (withoutBounds d = d ↔
        ∀ address ∈ d.memberAddresses, isBoundAddress address = false)
      ∧ withoutBounds (withoutBounds d) = withoutBounds d := by
  have hnone :
      ∀ address ∈ (withoutBounds d).memberAddresses, isBoundAddress address = false := by
    rw [withoutBounds_eq_prune]
    exact fun address h => Value.not_drop_of_mem_prune h
  refine ⟨withoutBounds_eq_prune d, hnone, ?_, ?_⟩
  · rw [withoutBounds_eq_prune]
    exact Value.prune_eq_self_iff isBoundAddress d
  · rw [withoutBounds_eq_prune (withoutBounds d)]
    exact (Value.prune_eq_self_iff isBoundAddress _).mpr hnone

/-- A property that is called like a bound stays, without its own bound; a default is
data. -/
example :
    withoutBounds (.object [
      ("properties", .object [("maximum", .object [("minimum", .number (.integer 1))])]),
      ("default", .object [("maximum", .number (.integer 9))]),
      ("maximum", .number (.integer 9))])
    = .object [
      ("properties", .object [("maximum", .object [])]),
      ("default", .object [("maximum", .number (.integer 9))])] := rfl

end StructuredOutput.OpenAI
