import StructuredOutput.Proofs.Json.Address
import StructuredOutput.Request

/-!
# Names of response formats

What a provider takes as the name of a response format, said without the function that
makes one: one to sixty-four characters, each an ASCII letter or digit, an underscore or a
hyphen. The main statement is that every request carries such a name, whatever the schema
is called and whatever name the options give. A name made once is not changed again, and
the names that are taken as they are are the acceptable ones that do not consist of
underscores only.
-/

namespace StructuredOutput.OpenAI

open Json (Value)

/-! ## Acceptable names -/

/-- ASCII letters and digits, the underscore and the hyphen. -/
def FormatChar (c : Char) : Prop :=
  ('A' ≤ c ∧ c ≤ 'Z') ∨ ('a' ≤ c ∧ c ≤ 'z') ∨ ('0' ≤ c ∧ c ≤ '9') ∨ c = '_' ∨ c = '-'

/-- One to sixty-four of these characters. -/
structure IsFormatName (name : String) : Prop where
  one_le_length : 1 ≤ name.length
  length_le : name.length ≤ 64
  chars : ∀ c ∈ name.toList, FormatChar c

theorem isFormatChar_iff {c : Char} : isFormatChar c ↔ FormatChar c := by
  have hupper : c.isUpper ↔ 'A' ≤ c ∧ c ≤ 'Z' := decide_eq_true_iff
  have hlower : c.isLower ↔ 'a' ≤ c ∧ c ≤ 'z' :=
    Bool.and_eq_true_iff.trans (and_congr decide_eq_true_iff decide_eq_true_iff)
  have hdigit : c.isDigit ↔ '0' ≤ c ∧ c ≤ '9' :=
    Bool.and_eq_true_iff.trans (and_congr decide_eq_true_iff decide_eq_true_iff)
  have halpha : c.isAlpha ↔ c.isUpper ∨ c.isLower := Bool.or_eq_true_iff
  have halphanum : c.isAlphanum ↔ c.isAlpha ∨ c.isDigit := Bool.or_eq_true_iff
  rw [isFormatChar, FormatChar, Bool.or_eq_true, Bool.or_eq_true, beq_iff_eq, beq_iff_eq,
    halphanum, halpha, hupper, hlower, hdigit, or_assoc, or_assoc, or_assoc]

theorem isFormatChar_underscore : isFormatChar '_' := by
  decide

/-! ## What becomes of a name -/

/-- What becomes of a character. -/
def replaced (c : Char) : Char := if isFormatChar c then c else '_'

/-- What becomes of the characters of a name. -/
def shortened (name : String) : List Char :=
  (name.toList.take formatNameLimit).map replaced

theorem formatName_eq (name : String) :
    formatName name = if (shortened name).all (· == '_') then fallbackFormatName
      else String.ofList (shortened name) := rfl

theorem isFormatChar_replaced (c : Char) : isFormatChar (replaced c) := by
  unfold replaced
  split
  · assumption
  · exact isFormatChar_underscore

theorem replaced_eq_self {c : Char} (h : isFormatChar c) : replaced c = c := if_pos h

theorem length_shortened_le (name : String) : (shortened name).length ≤ 64 := by
  rw [shortened, List.length_map, List.length_take]
  exact Nat.min_le_left formatNameLimit _

theorem isFormatChar_of_mem_shortened {name : String} {c : Char} (h : c ∈ shortened name) :
    isFormatChar c := by
  obtain ⟨d, -, rfl⟩ := List.mem_map.mp h
  exact isFormatChar_replaced d

theorem shortened_of_isFormatName {name : String} (h : IsFormatName name) :
    shortened name = name.toList := by
  have hlength : name.toList.length ≤ formatNameLimit := by
    rw [String.length_toList]
    exact h.length_le
  rw [shortened, List.take_of_length_le hlength]
  calc name.toList.map replaced = name.toList.map id :=
        List.map_congr_left fun c hc => replaced_eq_self
          (isFormatChar_iff.mpr (h.chars c hc))
    _ = name.toList := List.map_id _

/-- Underscores alone are replaced, so something else stands in every name that is made. -/
theorem exists_ne_underscore (name : String) :
    ∃ c ∈ (formatName name).toList, c ≠ '_' := by
  rw [formatName_eq]
  split
  · exact ⟨'D', by decide, by decide⟩
  · rename_i hother
    rw [String.toList_ofList]
    simpa using hother

theorem isFormatName_fallback : IsFormatName fallbackFormatName where
  one_le_length := by decide
  length_le := by decide
  chars c hc := by
    have hall : fallbackFormatName.toList.all isFormatChar := by
      decide
    exact isFormatChar_iff.mp (List.all_eq_true.mp hall c hc)

theorem isFormatName_formatName (name : String) : IsFormatName (formatName name) := by
  rw [formatName_eq]
  split
  · exact isFormatName_fallback
  · rename_i hother
    have hne : shortened name ≠ [] := by
      intro hnil
      simp [hnil] at hother
    refine ⟨?_, ?_, ?_⟩
    · rw [String.length_ofList]
      exact List.length_pos_iff.mpr hne
    · rw [String.length_ofList]
      exact length_shortened_le name
    · intro c hc
      rw [String.toList_ofList] at hc
      exact isFormatChar_iff.mp (isFormatChar_of_mem_shortened hc)

/-- An acceptable name stays as it is, unless it consists of underscores. -/
theorem formatName_eq_self {name : String} (h : IsFormatName name)
    (hother : ∃ c ∈ name.toList, c ≠ '_') : formatName name = name := by
  rw [formatName_eq, shortened_of_isFormatName h, if_neg, String.ofList_toList]
  simpa using hother

/-! ## Names in requests -/

/-- Where a request has the name of its response format. -/
def formatNameAddress : Json.Address :=
  [.member "response_format", .member "json_schema", .member "name"]

/-- Every request names its response format acceptably: after the name that the options
give, or that of the schema. A name that was made is not changed again, what stands behind
the sixty-fourth character does not matter, and just the acceptable names with something
beside underscores are left as they are. -/
theorem formatName_of_request (strict : Bool) (given : Option String) (s : Schema)
    (name : String) :
    (((Dialect.openAI strict given).request s).at? formatNameAddress
          = some (.string (formatName (given.getD s.name)))
        ∧ IsFormatName (formatName (given.getD s.name)))
      ∧ formatName (formatName name) = formatName name
      ∧ (∀ other, other.toList.take 64 = name.toList.take 64 →
        formatName other = formatName name)
      ∧ (formatName name = name ↔ IsFormatName name ∧ ∃ c ∈ name.toList, c ≠ '_') := by
  have hmade := isFormatName_formatName name
  have hother := exists_ne_underscore name
  refine ⟨⟨rfl, isFormatName_formatName _⟩, formatName_eq_self hmade hother, ?_, ?_⟩
  · intro other hother
    rw [formatName_eq, formatName_eq, shortened, shortened, formatNameLimit, hother]
  · constructor
    · intro hself
      rw [hself] at hmade hother
      exact ⟨hmade, hother⟩
    · rintro ⟨hname, hother⟩
      exact formatName_eq_self hname hother

/-- A title of sixty-four characters, of which the last is none that a name can have. -/
def fullLengthTitle : String := String.ofList (List.replicate 63 'w' ++ ['é'])

/-- What follows the title does not go into the name, though the title has more than
sixty-four bytes. -/
theorem formatName_fullLengthTitle :
    (fullLengthTitle ++ "s").toList.take 64 = fullLengthTitle.toList.take 64
      ∧ formatName (fullLengthTitle ++ "s") = formatName fullLengthTitle := by
  have hchars : fullLengthTitle.toList = List.replicate 63 'w' ++ ['é'] :=
    String.toList_ofList
  have hlength : fullLengthTitle.toList.length = 64 := by
    simp [hchars]
  have htake : (fullLengthTitle ++ "s").toList.take 64
      = fullLengthTitle.toList.take 64 := by
    rw [String.toList_append, ← hlength, List.take_left, List.take_length]
  obtain ⟨-, -, hcut, -⟩ := formatName_of_request true none .default fullLengthTitle
  exact ⟨htake, hcut _ htake⟩

end StructuredOutput.OpenAI
