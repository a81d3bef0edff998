import StructuredOutput.Toml.Quoted

/-!
# Strings that are written and read again

A string is read in two steps, which look at its characters for different reasons: one
finds the closing quotes, the other undoes the escapes. Both go through a written text
piece by piece, a piece being what is written for one character. `Piece` says once what
that can be, and each step is settled by what it does to a piece (`PassesLine`,
`PassesLines`, `Denotes`). The main statement is `readString_writeString`: whatever a text
holds and whichever form it is written in, it is read back, and what follows is left.
-/

namespace StructuredOutput.Toml

/-! ## Characters -/

theorem toNat_lt_of_isControl {c : Char} (h : isControl c) : c.toNat < 128 := by
  by_cases hspace : ' ' ≤ c
  · have hdelete : c = '\x7f' := by
      simp only [isControl, isPlain, hspace, decide_true, Bool.true_and, Bool.and_eq_true,
        Bool.not_eq_true', Bool.or_eq_false_iff, bne_eq_false_iff_eq] at h
      exact h.1.2
    rw [hdelete]
    decide
  · have hlt : c.toNat < ' '.toNat := by
      rw [Char.le_def, UInt32.le_iff_toNat_le] at hspace
      exact Nat.lt_of_not_le hspace
    exact Nat.lt_trans hlt (by decide)

theorem hexDigit?_capitalHex {n : Nat} (h : n < 16) :
    Text.hexDigit? (capitalHex n) = some n := by
  have hall : ∀ n < 16, Text.hexDigit? (capitalHex n) = some n := by decide
  exact hall n h

theorem isAlphanum_capitalHex {n : Nat} (h : n < 16) : (capitalHex n).isAlphanum := by
  have hall : ∀ n < 16, (capitalHex n).isAlphanum := by decide
  exact hall n h

/-- The digits of a character's code give the character. -/
theorem charOf?_capitalHex {c : Char} (h : c.toNat < 128) :
    charOf? ['0', '0', capitalHex (c.toNat / 16), capitalHex (c.toNat % 16)] = some c := by
  have hhigh : Text.hexDigit? (capitalHex (c.toNat / 16)) = some (c.toNat / 16) :=
    hexDigit?_capitalHex (by omega)
  have hlow : Text.hexDigit? (capitalHex (c.toNat % 16)) = some (c.toNat % 16) :=
    hexDigit?_capitalHex (by omega)
  have hzero : Text.hexDigit? '0' = some 0 := by decide
  have hcode : 16 * (16 * (16 * (16 * 0 + 0) + 0) + c.toNat / 16)
      + c.toNat % 16 = c.toNat := by
    omega
  have hvalid : c.toNat.isValidChar := c.valid
  simp only [charOf?, Text.hexadecimal?, List.foldlM_cons, List.foldlM_nil, hzero, hhigh,
    hlow, Option.map_eq_map, Option.map_some, Option.bind_eq_bind, Option.bind_some,
    Option.pure_def, hcode, if_pos hvalid, Char.ofNat_toNat]

/-! ## Pieces -/

/-- What can be written for a character between double quotes. -/
inductive Piece (c : Char) : List Char → Prop
  | self (hbackslash : c ≠ '\\') (hcontrol : isControl c = false) : Piece c [c]
  | escaped (d : Char) (h : escapeOf? d = some c) : Piece c ['\\', d]
  | code (h : isControl c) :
    Piece c ['\\', 'u', '0', '0', capitalHex (c.toNat / 16), capitalHex (c.toNat % 16)]

theorem piece_escape (c : Char) : Piece c (escape c) := by
  unfold escape
  split
  · rename_i h
    exact .escaped _ (by rw [h]; rfl)
  rename_i hbackslash
  split
  · rename_i h
    exact .escaped _ (by rw [h]; rfl)
  split
  · rename_i h
    exact .escaped _ (by rw [h]; rfl)
  split
  · rename_i h
    exact .escaped _ (by rw [h]; rfl)
  split
  · rename_i h
    exact .escaped _ (by rw [h]; rfl)
  split
  · rename_i h
    exact .code h
  · rename_i h
    exact .self hbackslash (by simpa using h)

/-- Only a character itself is written as one character. -/
theorem Piece.ne_singleton {c d : Char} {cs : List Char} (h : Piece c cs) (hc : c ≠ d) :
    cs ≠ [d] := by
  cases h with
  | self _ _ => simpa using hc
  | escaped _ _ => simp
  | code _ => simp

/-- On one line, neither a quote nor a line break is written as itself. -/
theorem escapeLine_cons (c : Char) (rest : List Char) :
    ∃ piece, Piece c piece ∧ piece ≠ ['"'] ∧ piece ≠ ['\n'] ∧
      escapeLine (c :: rest) = piece ++ escapeLine rest := by
  have hpiece := piece_escape c
  rw [escapeLine]
  split
  · rename_i h
    exact ⟨_, .escaped '"' (by rw [h]; rfl), by simp, by simp, rfl⟩
  rename_i hquote
  split
  · rename_i h
    exact ⟨_, .escaped 'n' (by rw [h]; rfl), by simp, by simp, rfl⟩
  · rename_i hbreak
    exact ⟨_, hpiece, hpiece.ne_singleton hquote, hpiece.ne_singleton hbreak, rfl⟩

/-- On several lines, a quote is written as itself but for every third in a row, and a line
break is written as itself. -/
theorem escapeLines_cons (written : Nat) (c : Char) (rest : List Char) :
    (c = '"' ∧ written = 2 ∧
        escapeLines written (c :: rest) = ['\\', '"'] ++ escapeLines 0 rest) ∨
    (c = '"' ∧ written ≠ 2 ∧
        escapeLines written (c :: rest) = '"' :: escapeLines (written + 1) rest) ∨
    ∃ piece, Piece c piece ∧ piece ≠ ['"'] ∧
      escapeLines written (c :: rest) = piece ++ escapeLines 0 rest := by
  rw [escapeLines]
  split
  · rename_i hquote
    split
    · rename_i hwritten
      exact .inl ⟨hquote, hwritten, rfl⟩
    · rename_i hwritten
      exact .inr (.inl ⟨hquote, hwritten, rfl⟩)
  · rename_i hquote
    refine .inr (.inr ?_)
    split
    · rename_i hbreak
      have hself : Piece c [c] := .self (by rw [hbreak]; decide) (by rw [hbreak]; decide)
      exact ⟨_, hself, hself.ne_singleton hquote, rfl⟩
    · exact ⟨_, piece_escape c, (piece_escape c).ne_singleton hquote, rfl⟩

theorem ne_of_isAlphanum {c d : Char} (hc : c.isAlphanum) (hd : d.isAlphanum = false) :
    c ≠ d := by
  rintro rfl
  rw [hc] at hd
  cases hd

/-- What holds of a character that is written as itself, of every escape, of every digit
and of what is put together from these, holds of a piece. -/
theorem Piece.induction {c : Char} {cs : List Char} (h : Piece c cs) {P : List Char → Prop}
    (self : cs = [c] → c ≠ '\\' → P [c]) (escaped : ∀ d, d ≠ '\n' → P ['\\', d])
    (digit : ∀ d, d.isAlphanum → P [d])
    (append : ∀ {cs ds}, P cs → P ds → P (cs ++ ds)) : P cs := by
  cases h with
  | self hbackslash _ => exact self rfl hbackslash
  | escaped d hd =>
    apply escaped
    rintro rfl
    cases hd
  | code hcontrol =>
    have hcode := toNat_lt_of_isControl hcontrol
    have hhigh := digit _ (isAlphanum_capitalHex (n := c.toNat / 16) (by omega))
    have hlow := digit _ (isAlphanum_capitalHex (n := c.toNat % 16) (by omega))
    have hzero := digit '0' (by decide)
    exact append (escaped 'u' (by decide))
      (append hzero (append hzero (append hhigh hlow)))

/-! ## Finding the end of a line -/

@[simp] theorem prepend_some (cs text rest : List Char) :
    prepend cs (some (text, rest)) = some (cs ++ text, rest) := rfl

@[simp] theorem prepend_nil (step : TextStep) : prepend [] step = step := by
  cases step <;> rfl

theorem prepend_prepend (cs ds : List Char) (step : TextStep) :
    prepend cs (prepend ds step) = prepend (cs ++ ds) step := by
  cases step <;> simp [prepend]

section

variable {quote : Char} {escapes : Bool}

theorem spanLine_quote (s : List Char) :
    spanLine quote escapes (quote :: s) = some ([], s) := by
  rw [spanLine.eq_def]
  exact if_pos rfl

theorem spanLine_plain {c : Char} (hquote : c ≠ quote) (hplain : escapes → c ≠ '\\')
    (s : List Char) :
    spanLine quote escapes (c :: s) = prepend [c] (spanLine quote escapes s) := by
  have hescape : ¬(escapes && c = '\\') := by simpa using hplain
  rw [spanLine.eq_def]
  simp only [if_neg hquote, if_neg hescape]

theorem spanLine_escape (hquote : quote ≠ '\\') (d : Char) (s : List Char) :
    spanLine quote true ('\\' :: d :: s) = prepend ['\\', d] (spanLine quote true s) := by
  simp [spanLine, Ne.symm hquote]

/-- The reader passes over the characters on its way to the closing quote. -/
def PassesLine (quote : Char) (escapes : Bool) (cs : List Char) : Prop :=
  ∀ s, spanLine quote escapes (cs ++ s) = prepend cs (spanLine quote escapes s)

theorem PassesLine.append {cs ds : List Char} (hc : PassesLine quote escapes cs)
    (hd : PassesLine quote escapes ds) : PassesLine quote escapes (cs ++ ds) := by
  intro s
  rw [List.append_assoc, hc, hd, prepend_prepend]

/-- The closing quote ends the text. -/
theorem PassesLine.spanLine_eq {cs : List Char} (h : PassesLine quote escapes cs)
    (rest : List Char) :
    spanLine quote escapes (cs ++ quote :: rest) = some (cs, rest) := by
  rw [h, spanLine_quote, prepend_some, List.append_nil]

theorem passesLine_of_not_mem {text : List Char} (h : quote ∉ text) :
    PassesLine quote false text := by
  intro s
  induction text with
  | nil => simp
  | cons c rest ih =>
    obtain ⟨hc, hrest⟩ := not_or.mp (mt List.mem_cons.mpr h)
    rw [List.cons_append, spanLine_plain (Ne.symm hc) (by simp), ih hrest, prepend_prepend,
      List.singleton_append]

end

theorem Piece.passesLine {c : Char} {cs : List Char} (h : Piece c cs)
    (hquote : cs ≠ ['"']) : PassesLine '"' true cs := by
  apply h.induction
  · rintro rfl hbackslash s
    exact spanLine_plain (by simpa using hquote) (fun _ => hbackslash) s
  · intro d _ s
    exact spanLine_escape (by decide) d s
  · intro d hd s
    exact spanLine_plain (ne_of_isAlphanum hd (by decide))
      (fun _ => ne_of_isAlphanum hd (by decide)) s
  · exact PassesLine.append

theorem passesLine_escapeLine (text : List Char) :
    PassesLine '"' true (escapeLine text) := by
  induction text with
  | nil =>
    intro s
    simp [escapeLine]
  | cons c rest ih =>
    obtain ⟨piece, hpiece, hquote, _, heq⟩ := escapeLine_cons c rest
    rw [heq]
    exact (hpiece.passesLine hquote).append ih

/-! ## Finding the end of several lines -/

section

variable {quote : Char} {escapes : Bool} {count : Nat}

theorem spanLines_quote (h : count ≠ 5) (s : List Char) :
    spanLines quote escapes count (quote :: s)
      = spanLines quote escapes (count + 1) s := by
  rw [spanLines.eq_def]
  simp only [if_true, if_neg h]

theorem spanLines_plain (hcount : count < 3) {c : Char} (hquote : c ≠ quote)
    (hplain : escapes → c ≠ '\\') (s : List Char) :
    spanLines quote escapes count (c :: s)
      = prepend (List.replicate count quote ++ [c]) (spanLines quote escapes 0 s) := by
  have hescape : ¬(escapes && c = '\\') := by simpa using hplain
  rw [spanLines.eq_def]
  simp only [if_neg hquote, if_neg (Nat.not_le_of_lt hcount), if_neg hescape,
    prepend_prepend]

theorem spanLines_escape (hcount : count < 3) (hquote : quote ≠ '\\') (d : Char)
    (s : List Char) :
    spanLines quote true count ('\\' :: d :: s)
      = prepend (List.replicate count quote ++ ['\\', d]) (spanLines quote true 0 s) := by
  rw [spanLines.eq_def]
  simp only [if_neg (Ne.symm hquote), if_neg (Nat.not_le_of_lt hcount), Bool.true_and,
    decide_true, if_true, prepend_prepend]

/-- Three quotes or more, with no quote behind them, close the text. -/
theorem spanLines_closed (hcount : 3 ≤ count) {rest : List Char}
    (h : rest.head? ≠ some quote) :
    spanLines quote escapes count rest
      = some (List.replicate (count - 3) quote, rest) := by
  cases rest with
  | nil => simp [spanLines, hcount]
  | cons c rest =>
    have hc : c ≠ quote := by simpa using h
    rw [spanLines.eq_def]
    simp only [if_neg hc, if_pos hcount]

/-- Of the quotes up to the end, the last three close the text. -/
theorem spanLines_closing (hcount : count < 3) {rest : List Char}
    (h : rest.head? ≠ some quote) :
    spanLines quote escapes count ([quote, quote, quote] ++ rest)
      = some (List.replicate count quote, rest) := by
  have hone : count ≠ 5 := by omega
  have htwo : count + 1 ≠ 5 := by omega
  have hthree : count + 1 + 1 ≠ 5 := by omega
  show spanLines quote escapes count (quote :: quote :: quote :: rest) = _
  rw [spanLines_quote hone, spanLines_quote htwo, spanLines_quote hthree,
    spanLines_closed (by omega) h]
  rfl

/-- The reader passes over the characters, which do not end in a quote, and over quotes
before them. -/
def PassesLines (quote : Char) (escapes : Bool) (cs : List Char) : Prop :=
  ∀ count < 3, ∀ s, spanLines quote escapes count (cs ++ s)
    = prepend (List.replicate count quote ++ cs) (spanLines quote escapes 0 s)

theorem PassesLines.append {cs ds : List Char} (hc : PassesLines quote escapes cs)
    (hd : PassesLines quote escapes ds) : PassesLines quote escapes (cs ++ ds) := by
  intro count hcount s
  rw [List.append_assoc, hc count hcount, hd 0 (by omega), prepend_prepend,
    List.append_assoc]
  rfl

theorem le_longestRun (c : Char) (run : Nat) (text : List Char) :
    run ≤ longestRun c run text := by
  induction text generalizing run with
  | nil => exact Nat.le_refl run
  | cons d rest ih =>
    rw [longestRun]
    split
    · exact Nat.le_trans (Nat.le_succ run) (ih (run + 1))
    · exact Nat.le_max_left _ _

/-- A text with at most two quotes in a row is found up to the closing quotes, with the
quotes that have been passed just before it. -/
theorem spanLines_of_longestRun {rest : List Char} (h : rest.head? ≠ some quote)
    {text : List Char} :
    ∀ {count : Nat}, longestRun quote count text ≤ 2 →
    spanLines quote false count (text ++ ([quote, quote, quote] ++ rest))
      = some (List.replicate count quote ++ text, rest) := by
  induction text with
  | nil =>
    intro count hrun
    rw [List.nil_append, List.append_nil]
    exact spanLines_closing (Nat.lt_succ_of_le hrun) h
  | cons c text ih =>
    intro count hrun
    rw [longestRun] at hrun
    split at hrun
    · rename_i hc
      subst hc
      have hcount : count ≠ 5 := by
        have := le_longestRun c (count + 1) text
        omega
      rw [List.cons_append, spanLines_quote hcount, ih hrun, List.replicate_succ',
        List.append_assoc]
      rfl
    · rename_i hc
      have hcount : count < 3 := by omega
      have htext : longestRun quote 0 text ≤ 2 := by omega
      rw [List.cons_append, spanLines_plain hcount hc (by simp), ih htext]
      simp

end

theorem Piece.passesLines {c : Char} {cs : List Char} (h : Piece c cs)
    (hquote : cs ≠ ['"']) : PassesLines '"' true cs := by
  apply h.induction
  · rintro rfl hbackslash count hcount s
    exact spanLines_plain hcount (by simpa using hquote) (fun _ => hbackslash) s
  · intro d _ count hcount s
    exact spanLines_escape hcount (by decide) d s
  · intro d hd count hcount s
    exact spanLines_plain hcount (ne_of_isAlphanum hd (by decide))
      (fun _ => ne_of_isAlphanum hd (by decide)) s
  · exact PassesLines.append

/-- An escaped text is found up to the closing quotes. -/
theorem spanLines_escapeLines {rest : List Char} (h : rest.head? ≠ some '"')
    (text : List Char) :
    ∀ {written : Nat}, written ≤ 2 →
    spanLines '"' true written (escapeLines written text ++ (['"', '"', '"'] ++ rest))
      = some (List.replicate written '"' ++ escapeLines written text, rest) := by
  -- The reader has just passed the quotes that were written last, so that both count the
  -- same.
  induction text with
  | nil =>
    intro written hwritten
    rw [escapeLines, List.nil_append, List.append_nil]
    exact spanLines_closing (Nat.lt_succ_of_le hwritten) h
  | cons c text ih =>
    intro written hwritten
    have hcount : written < 3 := Nat.lt_succ_of_le hwritten
    have hzero := ih (Nat.zero_le 2)
    obtain ⟨_, _, heq⟩ | ⟨_, hnext, heq⟩ | ⟨piece, hpiece, hquote, heq⟩ :=
      escapeLines_cons written c text
    · rw [heq, List.append_assoc]
      show spanLines _ _ _ ('\\' :: '"' :: (escapeLines 0 text ++ _)) = _
      rw [spanLines_escape hcount (by decide), hzero]
      simp
    · rw [heq, List.cons_append, spanLines_quote (by omega), ih (by omega),
        List.replicate_succ']
      simp
    · rw [heq, List.append_assoc, hpiece.passesLines hquote written hcount, hzero]
      simp

/-! ## Undoing escapes -/

/-- The characters stand for the given one. -/
def Denotes (cs : List Char) (c : Char) : Prop :=
  ∀ s, unescape false (cs ++ s) = (c :: ·) <$> unescape false s

theorem ne_return_of_isControl {c : Char} (h : isControl c = false) : c ≠ '\r' := by
  rintro rfl
  revert h
  decide

theorem beginsBreak_eq_false {c : Char} (h : c ≠ '\r') (s : List Char) :
    beginsBreak c s = false := by
  simp [beginsBreak, h]

theorem isPlain_or_of_isControl {c : Char} (h : isControl c = false) :
    (isPlain c || c == '\n') = true := by
  simp only [isControl, Bool.and_eq_false_iff, Bool.not_eq_false',
    bne_eq_false_iff_eq] at h
  simpa using h

theorem denotes_self {c : Char} (hbackslash : c ≠ '\\') (hcontrol : isControl c = false) :
    Denotes [c] c := by
  intro s
  show unescape false (c :: s) = _
  rw [unescape.eq_def]
  simp only [Bool.false_and, Bool.false_eq_true, if_false, if_neg hbackslash,
    beginsBreak_eq_false (ne_return_of_isControl hcontrol),
    isPlain_or_of_isControl hcontrol, if_true]

/-- The letter of an escape does not end its line. -/
theorem endsLine_of_escapeOf? {d c : Char} (h : escapeOf? d = some c) (s : List Char) :
    endsLine (d :: s) = false := by
  unfold escapeOf? at h
  split at h <;> first | rfl | cases h

theorem denotes_escaped {d c : Char} (h : escapeOf? d = some c) : Denotes ['\\', d] c := by
  intro s
  show unescape false ('\\' :: d :: s) = _
  rw [unescape.eq_def]
  simp only [Bool.false_and, Bool.false_eq_true, if_false, if_true,
    endsLine_of_escapeOf? h, h]

theorem denotes_code {c : Char} (h : c.toNat < 128) :
    Denotes ['\\', 'u', '0', '0', capitalHex (c.toNat / 16), capitalHex (c.toNat % 16)]
      c := by
  intro s
  have hends (t : List Char) : endsLine ('u' :: t) = false := rfl
  have hletter : escapeOf? 'u' = none := rfl
  simp only [List.cons_append, List.nil_append]
  rw [unescape.eq_def]
  simp only [Bool.false_and, Bool.false_eq_true, if_false, if_true, hends, hletter,
    charOf?_capitalHex h, Option.bind_eq_bind, Option.bind_some]

theorem Piece.denotes {c : Char} {cs : List Char} (h : Piece c cs) : Denotes cs c := by
  cases h with
  | self hbackslash hcontrol => exact denotes_self hbackslash hcontrol
  | escaped d hd => exact denotes_escaped hd
  | code hcontrol => exact denotes_code (toNat_lt_of_isControl hcontrol)

theorem unescape_escapeLine (text : List Char) :
    unescape false (escapeLine text) = some text := by
  induction text with
  | nil => rfl
  | cons c rest ih =>
    obtain ⟨piece, hpiece, _, _, heq⟩ := escapeLine_cons c rest
    rw [heq, hpiece.denotes, ih]
    rfl

theorem unescape_escapeLines (written : Nat) (text : List Char) :
    unescape false (escapeLines written text) = some text := by
  induction text generalizing written with
  | nil => rfl
  | cons c rest ih =>
    obtain ⟨rfl, _, heq⟩ | ⟨rfl, _, heq⟩ | ⟨piece, hpiece, _, heq⟩ :=
      escapeLines_cons written c rest
    · rw [heq, denotes_escaped rfl, ih]
      rfl
    · have hquote : Denotes ['"'] '"' := denotes_self (by decide) (by decide)
      rw [heq]
      exact (hquote _).trans (by rw [ih]; rfl)
    · rw [heq, hpiece.denotes, ih]
      rfl

theorem unbreak_of_plain {text : List Char} (h : text.any isControl = false) :
    unbreak text = some text := by
  induction text with
  | nil => rfl
  | cons c rest ih =>
    obtain ⟨hc, hrest⟩ : isControl c = false
      ∧ rest.any isControl = false := by simpa using h
    simp only [unbreak, beginsBreak_eq_false (ne_return_of_isControl hc),
      isPlain_or_of_isControl hc, Bool.false_eq_true, if_false, if_true, ih hrest]
    rfl

/-! ## Strings on one line -/

theorem decodeText_some (decode : List Char → Option (List Char))
    {written text : List Char} (h : decode written = some text) (rest : List Char) :
    decodeText decode (some (written, rest)) = some (text, rest) := by
  simp [decodeText, h]

theorem onOneLine_of_not_mem {text : List Char} (h : '\n' ∉ text) :
    onOneLine text = some text := by
  simp [onOneLine, h]

theorem Piece.not_mem_break {c : Char} {cs : List Char} (h : Piece c cs)
    (hbreak : cs ≠ ['\n']) : '\n' ∉ cs := by
  apply h.induction (P := fun cs => '\n' ∉ cs)
  · rintro rfl _
    simpa [eq_comm] using hbreak
  · intro d hd
    simpa using Ne.symm hd
  · intro d hd
    simpa using Ne.symm (ne_of_isAlphanum hd (by decide : ('\n').isAlphanum = false))
  · intro cs ds hcs hds
    simp [hcs, hds]

theorem not_mem_escapeLine (text : List Char) : '\n' ∉ escapeLine text := by
  induction text with
  | nil => simp [escapeLine]
  | cons c rest ih =>
    obtain ⟨piece, hpiece, _, hbreak, heq⟩ := escapeLine_cons c rest
    rw [heq, List.mem_append, not_or]
    exact ⟨hpiece.not_mem_break hbreak, ih⟩

/-- Unless it opens with three quotes, a string is on one line. -/
theorem readString_eq_readLineString {quote : Char} {s : List Char}
    (h : ∀ t, s ≠ quote :: quote :: t) :
    readString (quote :: s) = readLineString (quote :: s) := by
  unfold readString
  split
  · rename_i heq
    obtain ⟨rfl, rfl⟩ := List.cons.inj heq
    exact absurd rfl (h _)
  · rename_i heq
    obtain ⟨rfl, rfl⟩ := List.cons.inj heq
    exact absurd rfl (h _)
  · rfl

/-- A closing quote with no quote behind it, and a text that does not begin with a
quote. -/
theorem ne_two_quotes {quote : Char} {rest : List Char} (hrest : rest.head? ≠ some quote)
    {text : List Char} (htext : text.head? ≠ some quote) (t : List Char) :
    text ++ quote :: rest ≠ quote :: quote :: t := by
  rintro heq
  cases text with
  | nil =>
    obtain rfl := (List.cons.inj heq).2
    exact hrest rfl
  | cons c text =>
    obtain rfl := (List.cons.inj heq).1
    exact htext rfl

theorem head?_escapeLine (text : List Char) : (escapeLine text).head? ≠ some '"' := by
  cases text with
  | nil => simp [escapeLine]
  | cons c rest =>
    obtain ⟨piece, hpiece, hquote, _, heq⟩ := escapeLine_cons c rest
    rw [heq]
    cases hpiece with
    | self _ _ => simpa using hquote
    | escaped _ _ => simp
    | code _ => simp

theorem readString_basic {rest : List Char} (h : rest.head? ≠ some '"')
    (text : List Char) :
    readString (Form.basic.write text ++ rest) = some (text, rest) := by
  have hwritten : Form.basic.write text ++ rest
      = '"' :: (escapeLine text ++ '"' :: rest) := by
    simp [Form.write]
  rw [hwritten, readString_eq_readLineString (ne_two_quotes h (head?_escapeLine text)),
    readLineString, (passesLine_escapeLine text).spanLine_eq]
  apply decodeText_some
  rw [onOneLine_of_not_mem (not_mem_escapeLine text)]
  exact unescape_escapeLine text

theorem readString_literal {rest : List Char} (h : rest.head? ≠ some '\'')
    {text : List Char} (hcontrol : text.any isControl = false) (hquote : '\'' ∉ text)
    (hbreak : '\n' ∉ text) :
    readString (Form.literal.write text ++ rest) = some (text, rest) := by
  have hwritten : Form.literal.write text ++ rest = '\'' :: (text ++ '\'' :: rest) := by
    simp [Form.write]
  have hhead : text.head? ≠ some '\'' := fun hhead => hquote (List.mem_of_mem_head? hhead)
  rw [hwritten, readString_eq_readLineString (ne_two_quotes h hhead), readLineString,
    (passesLine_of_not_mem hquote).spanLine_eq]
  apply decodeText_some
  rw [onOneLine_of_not_mem hbreak]
  exact unbreak_of_plain hcontrol

/-! ## Strings on several lines -/

theorem dropOpeningBreak_cons {c : Char} (hbreak : c ≠ '\n') (hreturn : c ≠ '\r')
    (s : List Char) : dropOpeningBreak (c :: s) = c :: s := by
  unfold dropOpeningBreak
  split
  · rename_i heq
    exact absurd (List.cons.inj heq).1 hbreak
  · rename_i heq
    exact absurd (List.cons.inj heq).1 hreturn
  · rfl

/-- The line break that has been put behind the opening quotes is dropped, and no other. -/
theorem dropOpeningBreak_openingBreak {text s : List Char}
    (h : '\n' ∉ text → dropOpeningBreak s = s) :
    dropOpeningBreak (openingBreak text ++ s) = s := by
  unfold openingBreak
  split
  · rfl
  · rename_i hbreak
    exact h (by simpa using hbreak)

theorem dropOpeningBreak_escapeLines {text : List Char} (h : '\n' ∉ text)
    (rest : List Char) :
    dropOpeningBreak (escapeLines 0 text ++ (['"', '"', '"'] ++ rest))
      = escapeLines 0 text ++ (['"', '"', '"'] ++ rest) := by
  cases text with
  | nil => rfl
  | cons c text =>
    obtain ⟨_, _, heq⟩ | ⟨_, _, heq⟩ | ⟨piece, hpiece, _, heq⟩ := escapeLines_cons 0 c text
    · rw [heq]
      exact dropOpeningBreak_cons (by decide) (by decide) _
    · rw [heq]
      exact dropOpeningBreak_cons (by decide) (by decide) _
    · rw [heq]
      cases hpiece with
      | self _ hcontrol =>
        have hbreak : c ≠ '\n' := by
          rintro rfl
          exact h List.mem_cons_self
        exact dropOpeningBreak_cons hbreak (ne_return_of_isControl hcontrol) _
      | escaped _ _ => exact dropOpeningBreak_cons (by decide) (by decide) _
      | code _ => exact dropOpeningBreak_cons (by decide) (by decide) _

theorem dropOpeningBreak_literal {text : List Char} (hcontrol : text.any isControl = false)
    (h : '\n' ∉ text) (rest : List Char) :
    dropOpeningBreak (text ++ (['\'', '\'', '\''] ++ rest))
      = text ++ (['\'', '\'', '\''] ++ rest) := by
  cases text with
  | nil => rfl
  | cons c text =>
    have hbreak : c ≠ '\n' := by
      rintro rfl
      exact h List.mem_cons_self
    obtain ⟨hc, _⟩ : isControl c = false
      ∧ text.any isControl = false := by simpa using hcontrol
    exact dropOpeningBreak_cons hbreak (ne_return_of_isControl hc) _

theorem readString_basicLines {rest : List Char} (h : rest.head? ≠ some '"')
    (text : List Char) :
    readString (Form.basicLines.write text ++ rest) = some (text, rest) := by
  have hwritten : Form.basicLines.write text ++ rest = '"' :: '"' :: '"' ::
      (openingBreak text ++ (escapeLines 0 text ++ (['"', '"', '"'] ++ rest))) := by
    simp [Form.write]
  rw [hwritten, readString,
    dropOpeningBreak_openingBreak (fun hbreak => dropOpeningBreak_escapeLines hbreak rest),
    spanLines_escapeLines h text (Nat.zero_le 2)]
  exact decodeText_some _ (unescape_escapeLines 0 text) rest

theorem readString_literalLines {rest : List Char} (h : rest.head? ≠ some '\'')
    {text : List Char} (hcontrol : text.any isControl = false)
    (hrun : longestRun '\'' 0 text ≤ 2) :
    readString (Form.literalLines.write text ++ rest) = some (text, rest) := by
  have hwritten : Form.literalLines.write text ++ rest = '\'' :: '\'' :: '\'' ::
      (openingBreak text ++ (text ++ (['\'', '\'', '\''] ++ rest))) := by
    simp [Form.write]
  rw [hwritten, readString,
    dropOpeningBreak_openingBreak (fun hbreak =>
      dropOpeningBreak_literal hcontrol hbreak rest),
    spanLines_of_longestRun h hrun]
  exact decodeText_some _ (unbreak_of_plain hcontrol) rest

/-! ## Strings of any form -/

/-- No quote stands at the beginning. -/
def Unquoted (rest : List Char) : Prop := rest.head? ≠ some '"' ∧ rest.head? ≠ some '\''

theorem unquoted_cons {c : Char} (hdouble : c ≠ '"') (hsingle : c ≠ '\'') (s : List Char) :
    Unquoted (c :: s) := by
  constructor <;> simp [hdouble, hsingle]

/-- A written text is read back, and what follows it is left. -/
theorem readString_writeString (text : List Char) {rest : List Char} (h : Unquoted rest) :
    readString (writeString text ++ rest) = some (text, rest) := by
  obtain ⟨hdouble, hsingle⟩ := h
  unfold writeString Form.of
  dsimp only
  split
  · exact readString_basic hdouble text
  split
  · rename_i hfits
    simp only [Bool.and_eq_true, Bool.not_eq_true', List.contains_eq_mem,
      decide_eq_false_iff_not] at hfits
    exact readString_literal hsingle hfits.1.1 hfits.1.2 hfits.2
  split
  · exact readString_basicLines hdouble text
  split
  · rename_i hfits
    simp only [Bool.and_eq_true, Bool.not_eq_true', decide_eq_true_eq] at hfits
    exact readString_literalLines hsingle hfits.1 hfits.2
  split
  · exact readString_basicLines hdouble text
  · exact readString_basic hdouble text

/-- A text that needs an escape in every form: quotes of both kinds, three in a row, and a
bell. -/
example : writeString ['\'', '"', '"', '"', '\x07']
    = ['"', '\'', '\\', '"', '\\', '"', '\\', '"', '\\', 'u', '0', '0', '0',
      '7', '"'] := by
  decide

end StructuredOutput.Toml
