import StructuredOutput.Provider

/-!
# Words for a provider

How a provider may be written on the command line: its name or its other name, in letters
of either case, with any white space around it. The main statements are that
`Provider.recognize?` takes just these words (`recognize?_eq_some_iff`), and that neither
the case of letters nor white space at the ends can make a difference to it.
-/

namespace StructuredOutput

namespace Text

/-! ## Blanks around a text -/

theorem trim_append_of_blank {left : List Char} (h : ∀ c ∈ left, isBlank c)
    (cs : List Char) : trim (left ++ cs) = trim cs := by
  rw [trim, List.dropWhile_append_of_pos h, trim]

theorem trim_of_append_blank {right : List Char} (h : ∀ c ∈ right, isBlank c)
    (cs : List Char) : trim (cs ++ right) = trim cs := by
  have hnothing : (right ++ []).dropWhile isBlank = [] := List.dropWhile_append_of_pos h
  rw [List.append_nil] at hnothing
  rw [trim, trim, List.dropWhile_append]
  by_cases hcs : (cs.dropWhile isBlank).isEmpty
  · rw [if_pos hcs, hnothing, List.isEmpty_iff.mp hcs]
  · have hreverse : ∀ c ∈ right.reverse, isBlank c := by
      simpa using h
    rw [if_neg hcs, List.reverse_append, List.dropWhile_append_of_pos hreverse]

/-- What is cut off is blank, and it stood at the ends. -/
theorem exists_eq_append_trim (cs : List Char) :
    ∃ left right, cs = left ++ trim cs ++ right
      ∧ (∀ c ∈ left, isBlank c) ∧ ∀ c ∈ right, isBlank c := by
  have hblank (ds : List Char) : ∀ c ∈ ds.takeWhile isBlank, isBlank c :=
    List.all_eq_true.mp List.all_takeWhile
  refine ⟨cs.takeWhile isBlank, ((cs.dropWhile isBlank).reverse.takeWhile isBlank).reverse,
    ?_, hblank cs, ?_⟩
  · rw [trim, List.append_assoc, ← List.reverse_append, List.takeWhile_append_dropWhile,
      List.reverse_reverse, List.takeWhile_append_dropWhile]
  · intro c hc
    exact hblank _ c (List.mem_reverse.mp hc)

theorem dropWhile_eq_self {cs : List Char} (h : ∀ c ∈ cs, isBlank c = false) :
    cs.dropWhile isBlank = cs := by
  cases cs with
  | nil => rfl
  | cons c rest => simp [h c List.mem_cons_self]

theorem trim_eq_self {cs : List Char} (h : ∀ c ∈ cs, isBlank c = false) :
    trim cs = cs := by
  have hreverse : ∀ c ∈ cs.reverse, isBlank c = false := by
    simpa using h
  rw [trim, dropWhile_eq_self h, dropWhile_eq_self hreverse, List.reverse_reverse]

/-! ## Letters of either case -/

theorem toNat_toLower (c : Char) :
    c.toLower.toNat = if 65 ≤ c.toNat ∧ c.toNat ≤ 90 then c.toNat + 32 else c.toNat := by
  unfold Char.toLower
  by_cases h : 65 ≤ c.toNat ∧ c.toNat ≤ 90
  · rw [if_pos h, dif_pos (by simpa [UInt32.le_iff_toNat_le] using h), Char.toNat_mk,
      UInt32.toNat_add]
    have hval : c.val.toNat = c.toNat := rfl
    have hstep : ('a'.val - 'A'.val).toNat = 32 := rfl
    omega
  · rw [if_neg h, dif_neg (by simpa [UInt32.le_iff_toNat_le] using h)]

theorem lowerAscii_eq_toLower (c : Char) : lowerAscii c = c.toLower := by
  have hcapital : 'A' ≤ c ∧ c ≤ 'Z' ↔ 65 ≤ c.toNat ∧ c.toNat ≤ 90 := Iff.rfl
  rw [← Char.toNat_inj, toNat_toLower, lowerAscii]
  by_cases h : 65 ≤ c.toNat ∧ c.toNat ≤ 90
  · have hvalid : (c.toNat + 32).isValidChar := .inl (by omega)
    rw [if_pos h, if_pos (hcapital.mpr h), Char.ofNat, dif_pos hvalid]
    rfl
  · rw [if_neg h, if_neg (mt hcapital.mp h)]

theorem isBlank_of_graphic {c : Char} (h : 0x20 < c.toNat) (hc : c.toNat < 0x7F) :
    isBlank c = false := by
  simp only [isBlank, Bool.or_eq_false_iff, Bool.and_eq_false_iff, decide_eq_false_iff_not,
    beq_eq_false_iff_ne]
  omega

/-- A letter is no blank, in either case. -/
theorem isBlank_toLower (c : Char) : isBlank c.toLower = isBlank c := by
  have hlower := toNat_toLower c
  by_cases h : 65 ≤ c.toNat ∧ c.toNat ≤ 90
  · rw [if_pos h] at hlower
    rw [isBlank_of_graphic (by omega) (by omega), isBlank_of_graphic (by omega) (by omega)]
  · rw [if_neg h] at hlower
    rw [Char.toNat_inj.mp hlower]

theorem trim_map_toLower (cs : List Char) :
    trim (cs.map Char.toLower) = (trim cs).map Char.toLower := by
  have hblank : isBlank ∘ Char.toLower = isBlank := funext isBlank_toLower
  rw [trim, trim, List.dropWhile_map, hblank, ← List.map_reverse, List.dropWhile_map,
    hblank, List.map_reverse]

end Text

namespace Provider

/-! ## Recognition -/

/-- The two words for a provider, in small letters. -/
def spellings : Provider → List String
  | openAI => ["openai", "gpt"]
  | anthropic => ["anthropic", "claude"]
  | gemini => ["gemini", "google"]
  | ollama => ["ollama", "local"]

/-- A word for a provider: in letters of either case, and with white space around it. -/
def Spelled (p : Provider) (word : String) : Prop :=
  ∃ left core right : String, word = left ++ core ++ right ∧ core.toLower ∈ p.spellings
    ∧ (∀ c ∈ left.toList, Text.isBlank c) ∧ ∀ c ∈ right.toList, Text.isBlank c

theorem spelled_append {p : Provider} {left core right : String}
    (h : core.toLower ∈ p.spellings) (hleft : ∀ c ∈ left.toList, Text.isBlank c)
    (hright : ∀ c ∈ right.toList, Text.isBlank c) : p.Spelled (left ++ core ++ right) :=
  ⟨left, core, right, rfl, h, hleft, hright⟩

/-- A word as it is compared: in small letters, without blanks around them. -/
def compared (word : String) : String := String.ofList (Text.trim word.toLower.toList)

theorem toList_toLower (word : String) :
    word.toLower.toList = word.toList.map Char.toLower :=
  String.toList_map

theorem compared_eq (word : String) :
    compared word = String.ofList ((Text.trim word.toList).map Text.lowerAscii) := by
  rw [compared, toList_toLower, Text.trim_map_toLower, funext Text.lowerAscii_eq_toLower]

theorem recognize?_eq_some_iff_compared {word : String} {p : Provider} :
    recognize? word = some p ↔ compared word ∈ p.spellings := by
  rw [recognize?, ← compared_eq]
  generalize compared word = w
  split
  case h_9 =>
    -- The word is none of the eight.
    cases p <;> simp_all [spellings]
  all_goals cases p <;> decide

/-- Only what is compared decides. -/
theorem recognize?_congr {word other : String} (h : compared word = compared other) :
    recognize? word = recognize? other := by
  ext p
  rw [recognize?_eq_some_iff_compared, recognize?_eq_some_iff_compared, h]

theorem isBlank_of_mem_toLower {text : String} (h : ∀ c ∈ text.toList, Text.isBlank c) :
    ∀ c ∈ text.toLower.toList, Text.isBlank c := by
  intro c hc
  rw [toList_toLower] at hc
  obtain ⟨d, hd, rfl⟩ := List.mem_map.mp hc
  rw [Text.isBlank_toLower]
  exact h d hd

theorem compared_of_blanks {left right : String}
    (hleft : ∀ c ∈ left.toList, Text.isBlank c)
    (hright : ∀ c ∈ right.toList, Text.isBlank c) (word : String) :
    compared (left ++ word ++ right) = compared word := by
  have hlower : (left ++ word ++ right).toLower.toList
      = left.toLower.toList ++ word.toLower.toList ++ right.toLower.toList := by
    simp only [toList_toLower, String.toList_append, List.map_append]
  rw [compared, hlower, Text.trim_of_append_blank (isBlank_of_mem_toLower hright),
    Text.trim_append_of_blank (isBlank_of_mem_toLower hleft), compared]

/-- Neither blanks around a word nor the case of its letters matter. -/
theorem recognize?_of_blanks {left right word other : String}
    (hleft : ∀ c ∈ left.toList, Text.isBlank c)
    (hright : ∀ c ∈ right.toList, Text.isBlank c) (h : word.toLower = other.toLower) :
    recognize? (left ++ word ++ right) = recognize? other := by
  apply recognize?_congr
  rw [compared_of_blanks hleft hright, compared, compared, h]

theorem isBlank_of_spelling {p : Provider} {spelling : String}
    (h : spelling ∈ p.spellings) : ∀ c ∈ spelling.toList, Text.isBlank c = false := by
  have hall : p.spellings.all fun word => word.toList.all (!Text.isBlank ·) := by
    cases p <;> decide
  intro c hc
  simpa using List.all_eq_true.mp (List.all_eq_true.mp hall spelling h) c hc

theorem recognize?_eq_some_iff {word : String} {p : Provider} :
    recognize? word = some p ↔ p.Spelled word := by
  rw [recognize?_eq_some_iff_compared]
  constructor
  · intro h
    obtain ⟨left, right, hword, hleft, hright⟩ := Text.exists_eq_append_trim word.toList
    refine ⟨.ofList left, .ofList (Text.trim word.toList), .ofList right, ?_, ?_, ?_, ?_⟩
    · rw [← String.ofList_append, ← String.ofList_append, ← hword, String.ofList_toList]
    · have hcore : (String.ofList (Text.trim word.toList)).toLower = compared word := by
        rw [← String.toList_inj, toList_toLower, String.toList_ofList,
          ← Text.trim_map_toLower, ← toList_toLower, compared, String.toList_ofList]
      rwa [hcore]
    · rwa [String.toList_ofList]
    · rwa [String.toList_ofList]
  · rintro ⟨left, core, right, rfl, hcore, hleft, hright⟩
    rw [compared_of_blanks hleft hright, compared,
      Text.trim_eq_self (isBlank_of_spelling hcore), String.ofList_toList]
    exact hcore

theorem spelled_name (p : Provider) : p.Spelled p.name := by
  rw [← recognize?_eq_some_iff, recognize?_eq_some_iff_compared]
  cases p <;> decide +kernel

end Provider

end StructuredOutput
