import StructuredOutput.Proofs.Entries.Assembled
import StructuredOutput.Schema.Basic

/-!
# Fields given one after the other

Fields are given to a schema one at a time, or all at once to an object that declares them
in place. A name may be given more than once. The main statement is that both ways hold the
one assembly of what is given: a name stands where it is given first, with the field that
is given last. The names of the schema are those of the assembly, and the last field of a
name decides whether it counts among the required names or among the optional ones.
-/

namespace StructuredOutput.Schema

/-- The schema with fields added, one after the other. -/
def withFields (given : List (String × Field)) (s : Schema) : Schema :=
  given.foldl (fun s e => s.withField e.1 e.2) s

/-- Whether the field that is given last for a name is required. -/
def endsRequired (given : List (String × Field)) (name : String) : Bool :=
  (Entries.lastGiven? name given).any (·.attributes.required)

/-- Nothing but the fields of a schema changes, and they as entries do. -/
theorem withFields_eq (given : List (String × Field)) (s : Schema) :
    s.withFields given
      = { s with
          fields := given.foldl (fun acc e => Entries.insert e.1 e.2 acc) s.fields } := by
  induction given generalizing s with
  | nil =>
    cases s
    rfl
  | cons e rest ih => exact ih (s.withField e.1 e.2)

theorem withFields_empty (name description : String) (given : List (String × Field)) :
    (empty name description).withFields given
      = ⟨name, description, Entries.collect given, false⟩ :=
  withFields_eq given (empty name description)

theorem endsRequired_of_last {given : List (String × Field)} {name : String}
    {field : Field} (h : Entries.lastGiven? name given = some field) :
    endsRequired given name = field.attributes.required := by
  rw [endsRequired, h, Option.any_some]

/-- Fields with names repeated in any way make one assembly, whether a schema is given them
one after the other or an object declares them in place. The schema lists the names of the
assembly; whether the last field of a name is required splits them into the required and
the optional ones, each in order. -/
theorem assembled_withFields (name description about : String)
    (given : List (String × Field)) (allowsExtra : Bool) :
    ∃ fields : Entries Field,
      (∀ es, Entries.Assembled given es ↔ es = fields)
        ∧ (empty name description).withFields given = ⟨name, description, fields, false⟩
        ∧ (Field.ofFields about given allowsExtra).shape?
          = some (.inline fields allowsExtra)
        ∧ ((empty name description).withFields given).fieldNames = fields.names
        ∧ ((empty name description).withFields given).requiredNames
          = fields.names.filter (endsRequired given)
        ∧ ((empty name description).withFields given).optionalNames
          = fields.names.filter (fun other => !endsRequired given other) := by
  have hassembled := Entries.assembled_collect given
  refine ⟨Entries.collect given, fun es => ⟨fun h => h.unique hassembled, ?_⟩, ?_⟩
  · rintro rfl
    exact hassembled
  · rw [withFields_empty]
    refine ⟨rfl, rfl, rfl, ?_, ?_⟩
    · exact hassembled.names_filter (·.attributes.required) _ fun _ _ hlast =>
        (endsRequired_of_last hlast).symm
    · exact hassembled.names_filter (!·.attributes.required) _ fun _ _ hlast =>
        congrArg _ (endsRequired_of_last hlast).symm

/-- A name that is given again keeps its place and is required or not by the later
field. -/
example :
    let s := (empty "Person" "").withFields [
      ("name", .ofKind .string "Name"),
      ("age", .ofKind .integer "Age"),
      ("name", (Field.ofKind .string "Full name").optional)]
    s.fieldNames = ["name", "age"] ∧ s.requiredNames = ["age"]
      ∧ s.optionalNames = ["name"] := by
  decide

end StructuredOutput.Schema
