import StructuredOutput.Error
import StructuredOutput.Proofs.Json.Distinct
import StructuredOutput.Proofs.Schema.Decode
import StructuredOutput.Proofs.Schema.Document

/-!
# Distinct fields

Schemas come from texts, as documents or in their stored form. Either way no level of them
has two fields of one name, since no object that is read has two members of one name.
`Schema.Distinct` is therefore no more than what is true of every schema that is given to a
dialect.
-/

namespace StructuredOutput

open Json (Value)

/-! ## Documents -/

theorem Document.carries_distinct :
    Carries Value.Distinct (fun fields => fields.names.Nodup) Value.Distinct where
  member h := Value.distinctMembers_iff.mp h.2
  fields required definitions h := by
    rw [fieldsOfDefinitions_eq, Entries.names_mapValues]
    exact h.1
  no_fields := List.nodup_nil
  kept h := h
  anything := trivial
  unknown := by simp [Value.Distinct, Value.DistinctMembers]

theorem Schema.distinct_ofDocument {d : Value} (h : d.Distinct) :
    (Schema.ofDocument d).Distinct :=
  Document.carries_distinct.holds_ofDocument h

/-! ## Stored schemas -/

theorem Decode.carries_distinct :
    Carries Value.Distinct (fun fields => fields.names.Nodup) Value.Distinct where
  members h := Value.distinctMembers_iff.mp h.2
  items h := Value.distinctItems_iff.mp h
  fields h hnames _ := hnames ▸ h.1
  no_fields := List.nodup_nil
  kept _ h := h

theorem Schema.decode_distinct {v : Value} (h : v.Distinct) :
    Returns Schema.Distinct (Schema.decode v) :=
  Decode.carries_distinct.holds_decode h

/-! ## Texts -/

/-- A schema that is read from the text of a document is distinct. -/
theorem Schema.distinct_of_read {text : String} {s : Schema}
    (h : Schema.read text = .ok s) : s.Distinct := by
  have hread : Returns Schema.Distinct (Schema.ofText text) :=
    Returns.map (Value.parse_distinct text) fun _ => Schema.distinct_ofDocument
  exact (hread.mapError _).of_ok h

/-- A schema that is read from its stored form is distinct. -/
theorem Schema.distinct_of_readStored {text : String} {s : Schema}
    (h : Schema.readStored text = .ok s) : s.Distinct := by
  have hread : Returns Schema.Distinct (Schema.readStored text) :=
    ((Value.parse_distinct text).mapError _).bind fun v hv =>
      (Schema.decode_distinct hv).mapError _
  exact hread.of_ok h

end StructuredOutput
