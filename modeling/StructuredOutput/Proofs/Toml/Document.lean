import StructuredOutput.Proofs.Entries
import StructuredOutput.Proofs.Toml.Quoted
import StructuredOutput.Toml.Reader
import StructuredOutput.Toml.Writer

/-!
# Documents that are written and read again

A written document is read line by line. A piece of it is settled by the statements that it
adds, whatever follows (`Lines`); pieces are put together as their texts are. The
statements of a document of two levels then make the table that was written. The main
statement is `read_writeDocument`.
-/

namespace StructuredOutput.Toml

/-! ## Blanks -/

/-- A character that ends blanks and begins neither a comment nor a line. -/
def isMark (c : Char) : Bool := !isWhitespace c && c != '\n' && c != '\r' && c != '#'

theorem skipWhitespace_cons {c : Char} (h : isMark c) (s : List Char) :
    skipWhitespace (c :: s) = c :: s := by
  have hblank : isWhitespace c = false := by
    simp only [isMark, Bool.and_eq_true, Bool.not_eq_true'] at h
    exact h.1.1.1
  simp [skipWhitespace, hblank]

theorem skipFiller_cons {c : Char} (h : isMark c) (s : List Char) :
    skipFiller false (c :: s) = c :: s := by
  simp only [isMark, Bool.and_eq_true, Bool.not_eq_true', bne_iff_ne] at h
  obtain ⟨⟨⟨hblank, hbreak⟩, hreturn⟩, hcomment⟩ := h
  simp [skipFiller, beginsBreak, hblank, hbreak, hreturn, hcomment]

theorem endLine_cons {c : Char} (h : isMark c) (s : List Char) :
    endLine (c :: s) = none := by
  have hskip := skipWhitespace_cons h s
  simp only [isMark, Bool.and_eq_true, bne_iff_ne] at h
  obtain ⟨⟨⟨_, hbreak⟩, hreturn⟩, hcomment⟩ := h
  unfold endLine
  rw [hskip]
  split
  · rename_i heq
    exact absurd (List.cons.inj heq).1 hcomment
  · rename_i heq
    unfold readBreak
    split
    · rename_i heq
      cases heq
    · rename_i heq
      exact absurd (List.cons.inj heq).1 hbreak
    · rename_i heq
      exact absurd (List.cons.inj heq).1 hreturn
    · rfl

/-! ## Values -/

/-- The value that is written. -/
def Leaf.value : Leaf → Value
  | text s => .string s
  | flag b => .boolean b
  | texts ss => .array (ss.map .string)

/-- A string begins with a quote. -/
theorem writeString_cons (text : List Char) :
    ∃ quote s, (quote = '"' ∨ quote = '\'') ∧ writeString text = quote :: s := by
  unfold writeString
  cases Form.of text with
  | basic => exact ⟨'"', _, .inl rfl, rfl⟩
  | literal => exact ⟨'\'', _, .inr rfl, rfl⟩
  | basicLines => exact ⟨'"', _, .inl rfl, rfl⟩
  | literalLines => exact ⟨'\'', _, .inr rfl, rfl⟩

theorem isMark_quote {quote : Char} (h : quote = '"' ∨ quote = '\'') : isMark quote := by
  rcases h with rfl | rfl <;> rfl

theorem readValue_writeString (depth : Nat) (s : String) {rest : List Char}
    (h : Unquoted rest) :
    readValue depth (writeString s.toList ++ rest) = some (.string s, rest) := by
  have hread := readString_writeString s.toList h
  obtain ⟨quote, written, hquote, heq⟩ := writeString_cons s.toList
  rw [heq, List.cons_append] at hread ⊢
  rw [readValue.eq_def]
  simp [hquote, hread]

/-- The reader of items finds an item behind blanks. -/
theorem readItems_writeString (depth count : Nat) (s : String) {rest : List Char}
    (h : Unquoted rest) (before : List Char)
    (hbefore : ∀ t, skipFiller false (before ++ t) = skipFiller false t) :
    readItems (readValue depth) (count + 1) (before ++ (writeString s.toList ++ rest))
      = match skipFiller false rest with
        | ']' :: rest => some ([.string s], rest)
        | ',' :: rest => do
          let (vs, rest) ← readItems (readValue depth) count rest
          some (.string s :: vs, rest)
        | _ => none := by
  have hread := readValue_writeString depth s h
  obtain ⟨quote, written, hquote, heq⟩ := writeString_cons s.toList
  rw [heq, List.cons_append] at hread ⊢
  have hbracket : quote ≠ ']' := by
    rcases hquote with rfl | rfl <;> decide
  rw [readItems, hbefore, skipFiller_cons (isMark_quote hquote)]
  split
  · rename_i heq
    exact absurd (List.cons.inj heq).1 hbracket
  · rw [hread]
    rfl

/-- A line for each item, and the bracket on the last line. -/
theorem readItems_itemLines (depth : Nat) (values : List String) (rest : List Char) :
    ∀ {count : Nat}, values.length < count →
    readItems (readValue depth) count (itemLines values ++ ('\n' :: ']' :: rest))
      = some (values.map .string, rest) := by
  induction values with
  | nil =>
    intro count hcount
    obtain ⟨count, rfl⟩ := Nat.exists_eq_add_one_of_ne_zero (Nat.ne_of_gt hcount)
    rfl
  | cons v values ih =>
    intro count hcount
    obtain ⟨count, rfl⟩ :=
      Nat.exists_eq_add_one_of_ne_zero (Nat.ne_of_gt (Nat.zero_lt_of_lt hcount))
    have hline : itemLines (v :: values) ++ '\n' :: ']' :: rest
        = "\n    ".toList
          ++ (writeString v.toList ++ ','
            :: (itemLines values ++ '\n' :: ']' :: rest)) := by
      simp [itemLines]
    have hblanks (t : List Char) :
        skipFiller false ("\n    ".toList ++ t) = skipFiller false t := rfl
    have hunquoted : Unquoted (',' :: (itemLines values ++ '\n' :: ']' :: rest)) :=
      unquoted_cons (by decide) (by decide) _
    rw [hline, readItems_writeString depth count v hunquoted _ hblanks,
      skipFiller_cons rfl]
    show (readItems _ _ _).bind _ = _
    rw [ih (Nat.lt_of_succ_lt_succ hcount)]
    rfl

theorem length_le_itemLines (values : List String) :
    values.length ≤ (itemLines values).length := by
  induction values with
  | nil => exact Nat.zero_le _
  | cons v values ih =>
    have hline : itemLines (v :: values)
        = "\n    ".toList ++ writeString v.toList ++ [','] ++ itemLines values := rfl
    rw [hline]
    simp only [List.length_append, List.length_cons, List.length_nil]
    omega

/-- A value begins with no blank. -/
theorem Leaf.write_cons (leaf : Leaf) : ∃ c s, isMark c ∧ leaf.write = c :: s := by
  match leaf with
  | .text s =>
    obtain ⟨quote, written, hquote, heq⟩ := writeString_cons s.toList
    exact ⟨quote, written, isMark_quote hquote, heq⟩
  | .flag true => exact ⟨'t', _, rfl, rfl⟩
  | .flag false => exact ⟨'f', _, rfl, rfl⟩
  | .texts [] => exact ⟨'[', _, rfl, rfl⟩
  | .texts [s] => exact ⟨'[', _, rfl, rfl⟩
  | .texts (s :: t :: values) => exact ⟨'[', _, rfl, rfl⟩

/-- A written value is read back, and what follows it is left. -/
theorem readValue_write (leaf : Leaf) (depth : Nat) {rest : List Char}
    (h : Unquoted rest) :
    readValue (depth + 1) (leaf.write ++ rest) = some (leaf.value, rest) := by
  match leaf with
  | .text s => exact readValue_writeString (depth + 1) s h
  | .flag true => rfl
  | .flag false => rfl
  | .texts [] => rfl
  | .texts [s] =>
    have hwritten : (Leaf.texts [s]).write ++ rest
        = '[' :: (writeString s.toList ++ ']' :: rest) := by
      simp [Leaf.write]
    have hunquoted : Unquoted (']' :: rest) := unquoted_cons (by decide) (by decide) rest
    obtain ⟨count, hcount⟩ : ∃ count, (writeString s.toList ++ ']' :: rest).length
      = count + 1 :=
      ⟨_, by rw [List.length_append, List.length_cons]; rfl⟩
    have hitems := readItems_writeString depth count s hunquoted [] (fun _ => rfl)
    rw [skipFiller_cons rfl, List.nil_append] at hitems
    rw [hwritten, readValue.eq_def]
    simp [hcount, hitems, Leaf.value]
  | .texts (s :: t :: values) =>
    have hwritten : (Leaf.texts (s :: t :: values)).write ++ rest
        = '[' :: (itemLines (s :: t :: values) ++ '\n' :: ']' :: rest) := by
      simp [Leaf.write]
    have hcount : (s :: t :: values).length
        < (itemLines (s :: t :: values) ++ '\n' :: ']' :: rest).length := by
      have := length_le_itemLines (s :: t :: values)
      simp only [List.length_append, List.length_cons] at this ⊢
      omega
    rw [hwritten, readValue.eq_def]
    simp only [readItems_itemLines depth _ rest hcount]
    rfl

/-- Some nesting is allowed. -/
theorem exists_nestingLimit : ∃ depth, nestingLimit = depth + 1 := ⟨_, rfl⟩

/-! ## Keys -/

/-- A name that is a key without quotes. -/
def IsBare (name : String) : Prop := name.toList ≠ [] ∧ name.toList.all isBare

instance (name : String) : Decidable (IsBare name) := inferInstanceAs (Decidable (_ ∧ _))

theorem isMark_of_isBare {c : Char} (h : isBare c) : isMark c := by
  have hne {d : Char} (hd : isBare d = false) : c ≠ d := by
    rintro rfl
    rw [h] at hd
    cases hd
  have hspace : c ≠ ' ' := hne (by decide)
  have htab : c ≠ '\t' := hne (by decide)
  have hbreak : c ≠ '\n' := hne (by decide)
  have hreturn : c ≠ '\r' := hne (by decide)
  have hcomment : c ≠ '#' := hne (by decide)
  simp [isMark, isWhitespace, hspace, htab, hbreak, hreturn, hcomment]

namespace IsBare

variable {name : String}

theorem isBare (h : IsBare name) {c : Char} (hc : c ∈ name.toList) : Toml.isBare c :=
  List.all_eq_true.mp h.2 c hc

/-- A key begins with a character that may stand in one. -/
theorem eq_cons (h : IsBare name) : ∃ c s, Toml.isBare c ∧ name.toList = c :: s := by
  cases hchars : name.toList with
  | nil => exact absurd hchars h.1
  | cons c s => exact ⟨c, s, h.isBare (by rw [hchars]; exact List.mem_cons_self), rfl⟩

/-- A key begins with nothing that may not stand in one. -/
theorem append_ne_cons (h : IsBare name) {c : Char} (hc : Toml.isBare c = false)
    (s t : List Char) : name.toList ++ s ≠ c :: t := by
  obtain ⟨first, rest, hfirst, hchars⟩ := h.eq_cons
  rintro heq
  rw [hchars] at heq
  rw [(List.cons.inj heq).1, hc] at hfirst
  cases hfirst

theorem skipWhitespace_append (h : IsBare name) (s : List Char) :
    skipWhitespace (name.toList ++ s) = name.toList ++ s := by
  obtain ⟨c, rest, hc, hchars⟩ := h.eq_cons
  rw [hchars]
  exact skipWhitespace_cons (isMark_of_isBare hc) _

end IsBare

theorem readKeyPart_bare {name : String} (hname : IsBare name) {s : List Char}
    (hs : ∀ c ∈ s.head?, isBare c = false) :
    readKeyPart (name.toList ++ s) = some (name.toList, s) := by
  have htake : (name.toList ++ s).takeWhile isBare = name.toList := by
    rw [List.takeWhile_append_of_pos fun _ => hname.isBare]
    cases s with
    | nil => simp
    | cons c s => simp [hs c rfl]
  have hdrop : (name.toList ++ s).dropWhile isBare = s := by
    rw [List.dropWhile_append_of_pos fun _ => hname.isBare]
    cases s with
    | nil => rfl
    | cons c s => simp [hs c rfl]
  have hempty : name.toList.isEmpty = false := by simpa using hname.1
  unfold readKeyPart
  split
  · rename_i heq
    exact absurd heq (hname.append_ne_cons (by decide) s _)
  · rename_i heq
    exact absurd heq (hname.append_ne_cons (by decide) s _)
  · simp only [htake, hdrop, hempty, Bool.false_eq_true, if_false]

/-- A key without quotes is a name of the table that is open. -/
theorem readKey_bare {name : String} (hname : IsBare name) {s : List Char}
    (hs : ∀ c ∈ s.head?, isBare c = false) (hpoint : (skipWhitespace s).head? ≠ some '.') :
    readKey (name.toList ++ s) = some (([], name), skipWhitespace s) := by
  have hpart := readKeyPart_bare hname hs
  have hparts : readKeyParts nestingLimit (name.toList ++ s)
      = some ([name], skipWhitespace s) := by
    obtain ⟨depth, hdepth⟩ := exists_nestingLimit
    rw [hdepth, readKeyParts, hname.skipWhitespace_append, hpart]
    simp only [Option.bind_eq_bind, Option.bind_some, String.ofList_toList]
    split
    · rename_i heq
      rw [heq] at hpoint
      exact absurd rfl hpoint
    · rfl
  rw [readKey, hparts]
  rfl

/-! ## Statements -/

/-- The line of an entry, but for its end. -/
def entryLine (key : String) (leaf : Leaf) : List Char :=
  key.toList ++ " = ".toList ++ leaf.write

/-- The line of a header, but for its end. -/
def headerLine (name : String) : List Char := '[' :: name.toList ++ [']']

theorem readStatement_entryLine {key : String} (hkey : IsBare key) (leaf : Leaf)
    (more : List Char) :
    readStatement (entryLine key leaf ++ '\n' :: more)
      = some (.assignment ⟨[], key, leaf.value⟩, '\n' :: more) := by
  have hline : entryLine key leaf ++ '\n' :: more
      = key.toList ++ (' ' :: '=' :: ' ' :: (leaf.write ++ '\n' :: more)) := by
    simp [entryLine]
  have hreadKey : readKey
        (key.toList ++ (' ' :: '=' :: ' ' :: (leaf.write ++ '\n' :: more)))
      = some (([], key), '=' :: ' ' :: (leaf.write ++ '\n' :: more)) :=
    readKey_bare hkey (by simp; decide) (by show some '=' ≠ some '.'; decide)
  have hskip : skipWhitespace (' ' :: (leaf.write ++ '\n' :: more))
      = leaf.write ++ '\n' :: more := by
    obtain ⟨c, s, hc, heq⟩ := leaf.write_cons
    rw [heq]
    exact skipWhitespace_cons hc _
  have hvalue : readValue nestingLimit (leaf.write ++ '\n' :: more)
      = some (leaf.value, '\n' :: more) := by
    obtain ⟨depth, hdepth⟩ := exists_nestingLimit
    rw [hdepth]
    exact readValue_write leaf depth (unquoted_cons (by decide) (by decide) more)
  rw [hline]
  unfold readStatement
  split
  · rename_i heq
    exact absurd heq (hkey.append_ne_cons (by decide) _ _)
  · simp only [readAssignment, hreadKey, Option.bind_eq_bind, Option.bind_some, hskip,
      hvalue, Option.map_some]

theorem readStatement_headerLine {name : String} (hname : IsBare name) (more : List Char) :
    readStatement (headerLine name ++ '\n' :: more)
      = some (.header ⟨[], name, false⟩, '\n' :: more) := by
  have hline : headerLine name ++ '\n' :: more
      = '[' :: (name.toList ++ (']' :: '\n' :: more)) := by
    simp [headerLine]
  have hreadKey : readKey (name.toList ++ (']' :: '\n' :: more))
      = some (([], name), ']' :: '\n' :: more) :=
    readKey_bare hname (by simp; decide) (by show some ']' ≠ some '.'; decide)
  rw [hline]
  show (readHeader _).map _ = _
  unfold readHeader
  split
  · rename_i heq
    exact absurd (List.cons.inj heq).2 (hname.append_ne_cons (by decide) _ _)
  · rename_i heq
    obtain rfl := (List.cons.inj heq).2
    simp only [hreadKey, Option.bind_eq_bind, Option.bind_some, Option.map_some]
  · rename_i hnot
    exact absurd rfl (hnot _)

/-! ## Lines -/

/-- The text is read as these statements, whatever follows it: each of its lines takes one
from the number of lines that may still be read. -/
structure Lines (text : List Char) (statements : List Statement) : Prop where
  unmarked : text.head? ≠ some '\ufeff'
  reads : ∃ n ≤ text.length, ∀ count more,
    readStatements (n + count) (text ++ more)
      = (statements ++ ·) <$> readStatements count more

namespace Lines

theorem nil : Lines [] [] where
  unmarked := nofun
  reads := ⟨0, Nat.le_refl 0, fun count more => by
    rw [Nat.zero_add, List.nil_append]
    cases readStatements count more <;> rfl⟩

theorem append {text text' : List Char} {statements statements' : List Statement}
    (h : Lines text statements) (h' : Lines text' statements') :
    Lines (text ++ text') (statements ++ statements') := by
  obtain ⟨hmark, n, hn, hreads⟩ := h
  obtain ⟨hmark', n', hn', hreads'⟩ := h'
  refine ⟨?_, n + n', ?_, ?_⟩
  · cases text with
    | nil => exact hmark'
    | cons c s => exact hmark
  · rw [List.length_append]
    omega
  · intro count more
    rw [Nat.add_assoc, List.append_assoc, hreads, hreads']
    cases readStatements count more <;> simp

/-- An empty line. -/
theorem blank : Lines ['\n'] [] where
  unmarked := by decide
  reads := ⟨1, Nat.le_refl 1, fun count more => by
    rw [Nat.add_comm]
    show readStatements count more = _
    cases readStatements count more <;> rfl⟩

/-- A line of a statement. -/
theorem statement {line : List Char} {statement : Statement}
    (hmark : ∃ c s, isMark c ∧ c ≠ '\ufeff' ∧ line = c :: s)
    (hread : ∀ more, readStatement (line ++ '\n' :: more)
      = some (statement, '\n' :: more)) : Lines (line ++ ['\n']) [statement] := by
  obtain ⟨c, s, hc, hordinary, rfl⟩ := hmark
  refine ⟨by simpa using hordinary, 1, by simp, ?_⟩
  intro count more
  have hline : c :: s ++ ['\n'] ++ more = c :: (s ++ '\n' :: more) := by
    simp
  have hend : endLine ('\n' :: more) = some more := rfl
  rw [hline, Nat.add_comm, readStatements, skipWhitespace_cons hc]
  simp only [endLine_cons hc]
  rw [← List.cons_append, hread]
  simp only [Option.bind_eq_bind, Option.bind_some, hend]
  cases readStatements count more <;> rfl

theorem entry {key : String} (hkey : IsBare key) (leaf : Leaf) :
    Lines (entryLine key leaf ++ ['\n']) [.assignment ⟨[], key, leaf.value⟩] := by
  apply statement _ (readStatement_entryLine hkey leaf)
  obtain ⟨c, s, hc, hchars⟩ := hkey.eq_cons
  refine ⟨c, s ++ " = ".toList ++ leaf.write, isMark_of_isBare hc, ?_, ?_⟩
  · rintro rfl
    revert hc
    decide
  · rw [entryLine, hchars]
    rfl

theorem header {name : String} (hname : IsBare name) :
    Lines (headerLine name ++ ['\n']) [.header ⟨[], name, false⟩] :=
  statement ⟨'[', _, rfl, by decide, rfl⟩ (readStatement_headerLine hname)

/-- Pieces with an empty line between them. -/
theorem intercalate {parts : List (List Char × List Statement)}
    (h : ∀ part ∈ parts, Lines part.1 part.2) :
    Lines (['\n'].intercalate (parts.map Prod.fst)) (parts.flatMap Prod.snd) := by
  induction parts with
  | nil => exact nil
  | cons part parts ih =>
    have hpart : Lines part.1 part.2 := h part List.mem_cons_self
    have hparts := ih fun other hother => h other (List.mem_cons_of_mem part hother)
    cases parts with
    | nil => simpa using hpart
    | cons next parts =>
      have hboth := (hpart.append blank).append hparts
      rw [List.append_nil] at hboth
      exact List.intercalate_cons_cons ▸ hboth

/-- A text is read to its end. -/
theorem readStatements_eq {text : List Char} {statements : List Statement}
    (h : Lines text statements) :
    readStatements (text.length + 1) text = some statements := by
  obtain ⟨_, n, hn, hreads⟩ := h
  have hcount : text.length + 1 = n + (text.length - n + 1) := by omega
  have hread := hreads (text.length - n + 1) []
  rw [List.append_nil, ← hcount] at hread
  rw [hread]
  show some (statements ++ []) = _
  rw [List.append_nil]

theorem dropMark_eq {text : List Char} {statements : List Statement}
    (h : Lines text statements) : dropMark text = text := by
  unfold dropMark
  split
  · exact absurd rfl h.unmarked
  · rfl

end Lines

/-! ## Building the table -/

/-- The assignment of an entry. -/
def assignmentOf (entry : String × Leaf) : Assignment := ⟨[], entry.1, entry.2.value⟩

/-- The table of the entries. -/
def tableOf (entries : Entries Leaf) : Entries Value :=
  entries.mapValues fun _ leaf => leaf.value

theorem tableOf_append (es fs : Entries Leaf) :
    tableOf (es ++ fs) = tableOf es ++ tableOf fs :=
  Entries.mapValues_append ..

/-- The table of a document: its entries and its tables, but for those without entries. -/
def documentTable (top : Entries Leaf) (tables : Entries (Entries Leaf)) : Entries Value :=
  tableOf top
    ++ Entries.mapValues (fun _ entries => .table (tableOf entries))
      (tables.filter (!·.2.isEmpty))

/-- The entries under construction. -/
def nodesOf (entries : Entries Leaf) : Entries Node :=
  entries.mapValues fun _ leaf => .value leaf.value

theorem entriesToValue_append (es fs : Entries Node) :
    Node.entriesToValue (es ++ fs) = Node.entriesToValue es ++ Node.entriesToValue fs := by
  induction es with
  | nil => rfl
  | cons e es ih =>
    rw [List.cons_append, Node.entriesToValue, Node.entriesToValue, ih]; rfl

theorem entriesToValue_nodesOf (entries : Entries Leaf) :
    Node.entriesToValue (nodesOf entries) = tableOf entries := by
  induction entries with
  | nil => rfl
  | cons e entries ih =>
    show (_, _) :: Node.entriesToValue (nodesOf entries) = _
    rw [ih]
    rfl

theorem assign_of_lookup {entries : Entries Node} {entry : String × Leaf}
    (h : entries.lookup entry.1 = none) :
    Node.assign entries (assignmentOf entry)
      = some (entries ++ [(entry.1, .value entry.2.value)]) := by
  simp [Node.assign, Node.alter, assignmentOf, h]

/-- Entries of new names are added in their order. -/
theorem assignAll_assignmentOf {es : Entries Node} {entries : Entries Leaf}
    (h : (es.names ++ entries.names).Nodup) :
    Node.assignAll es (entries.map assignmentOf) = some (es ++ nodesOf entries) := by
  induction entries generalizing es with
  | nil => simp [Node.assignAll, nodesOf]
  | cons e entries ih =>
    have hnew : es.lookup e.1 = none := by
      rw [Entries.lookup_eq_none_iff]
      intro other hother
      exact (List.nodup_append.mp h).2.2 other.1 (List.mem_map_of_mem hother) e.1
        List.mem_cons_self
    have hnodup :
        (Entries.names (es ++ [(e.1, Node.value e.2.value)])
          ++ Entries.names entries).Nodup := by
      rw [Entries.names_append, List.append_assoc]
      exact h
    show (Node.assign es (assignmentOf e)).bind (Node.assignAll · _) = _
    rw [assign_of_lookup hnew, Option.bind_some, ih hnodup, List.append_assoc]
    rfl

/-- A header opens a new table behind the others. -/
theorem openTable_of_lookup {root : Entries Node} {name : String} {entries : Entries Leaf}
    (hnew : root.lookup name = none) (h : entries.names.Nodup) :
    Node.openTable root ⟨[], name, false⟩ (entries.map assignmentOf)
      = some (root ++ [(name, .table .header (nodesOf entries))]) := by
  have hbody : Node.assignAll [] (entries.map assignmentOf) = some (nodesOf entries) :=
    assignAll_assignmentOf h
  simp [Node.openTable, Node.alter, hnew, hbody]

/-- The statement of an entry. -/
def statementOf (entry : String × Leaf) : Statement := .assignment (assignmentOf entry)

/-- The statements of a table: its header and its entries. -/
def statementsOf (table : String × Entries Leaf) : List Statement :=
  .header ⟨[], table.1, false⟩ :: table.2.map statementOf

/-- The section of a table. -/
def sectionOf (table : String × Entries Leaf) : Header × List Assignment :=
  (⟨[], table.1, false⟩, table.2.map assignmentOf)

theorem sections_append (entries : Entries Leaf) (rest : List Statement) :
    sections (entries.map statementOf ++ rest)
      = (entries.map assignmentOf ++ (sections rest).1, (sections rest).2) := by
  induction entries with
  | nil => rfl
  | cons e entries ih =>
    rw [List.map_cons, List.cons_append, statementOf, sections, ih]
    rfl

theorem sections_statementsOf (tables : Entries (Entries Leaf)) :
    sections (tables.flatMap statementsOf) = ([], tables.map sectionOf) := by
  induction tables with
  | nil => rfl
  | cons table tables ih =>
    rw [List.flatMap_cons, statementsOf, List.cons_append, sections, sections_append, ih,
      List.append_nil]
    rfl

theorem openTables {root : Entries Node} {tables : Entries (Entries Leaf)}
    (h : (root.names ++ tables.names).Nodup) (hinner : ∀ t ∈ tables, t.2.names.Nodup) :
    (tables.map sectionOf).foldlM (fun root s => Node.openTable root s.1 s.2) root
      = some (root
        ++ tables.mapValues fun _ entries => .table .header (nodesOf entries)) := by
  induction tables generalizing root with
  | nil => simp
  | cons table tables ih =>
    have hnew : root.lookup table.1 = none := by
      rw [Entries.lookup_eq_none_iff]
      intro other hother
      exact (List.nodup_append.mp h).2.2 other.1 (List.mem_map_of_mem hother) table.1
        List.mem_cons_self
    have hnodup : (Entries.names
        (root ++ [(table.1, Node.table .header (nodesOf table.2))])
        ++ Entries.names tables).Nodup := by
      rw [Entries.names_append, List.append_assoc]
      exact h
    have hopen := openTable_of_lookup hnew (hinner table List.mem_cons_self)
    rw [List.map_cons, List.foldlM_cons, sectionOf, hopen, Option.bind_eq_bind,
      Option.bind_some, ih hnodup fun t ht => hinner t (List.mem_cons_of_mem table ht),
      List.append_assoc]
    rfl

theorem entriesToValue_tables (tables : Entries (Entries Leaf)) :
    Node.entriesToValue
        (tables.mapValues fun _ entries => Node.table .header (nodesOf entries))
      = tables.mapValues fun _ entries => Value.table (tableOf entries) := by
  induction tables with
  | nil => rfl
  | cons table tables ih =>
    rw [Entries.mapValues_cons, Entries.mapValues_cons, Node.entriesToValue, Node.toValue,
      entriesToValue_nodesOf, ih]

/-! ## Documents -/

/-- Names that may be the keys of one table. -/
def AreKeys (names : List String) : Prop := names.Nodup ∧ ∀ name ∈ names, IsBare name

instance (names : List String) : Decidable (AreKeys names) :=
  inferInstanceAs (Decidable (_ ∧ _))

theorem AreKeys.of_sublist {names names' : List String} (h : AreKeys names')
    (hsub : names.Sublist names') : AreKeys names :=
  ⟨h.1.sublist hsub, fun name hname => h.2 name (hsub.mem hname)⟩

/-- The names at the top of a document, and those in each of its tables, may be keys. -/
structure WellNamed (top : Entries Leaf) (tables : Entries (Entries Leaf)) : Prop where
  outer : AreKeys (top.names ++ tables.names)
  inner : ∀ t ∈ tables, AreKeys t.2.names

theorem WellNamed.filter {top : Entries Leaf} {tables : Entries (Entries Leaf)}
    (h : WellNamed top tables) (keep : String × Entries Leaf → Bool) :
    WellNamed top (tables.filter keep) where
  outer := h.outer.of_sublist
    ((List.Sublist.refl _).append (List.filter_sublist.map Prod.fst))
  inner := fun t ht => h.inner t (List.mem_filter.mp ht).1

/-- The statements make the table. -/
theorem document_statements {top : Entries Leaf} {tables : Entries (Entries Leaf)}
    (h : WellNamed top tables) :
    document (top.map statementOf ++ tables.flatMap statementsOf)
      = some (tableOf top
        ++ tables.mapValues fun _ entries => .table (tableOf entries)) := by
  have hsections : sections (top.map statementOf ++ tables.flatMap statementsOf)
      = (top.map assignmentOf, tables.map sectionOf) := by
    rw [sections_append, sections_statementsOf, List.append_nil]
  have htop : Node.assignAll [] (top.map assignmentOf) = some (nodesOf top) :=
    assignAll_assignmentOf (List.nodup_append.mp h.outer.1).1
  have hnodup : ((nodesOf top).names ++ tables.names).Nodup := by
    simpa [nodesOf] using h.outer.1
  have htables := openTables hnodup fun t ht => (h.inner t ht).1
  simp only [document, hsections, htop, Option.bind_eq_bind, Option.bind_some, htables,
    entriesToValue_append, entriesToValue_nodesOf, entriesToValue_tables]

theorem Lines.entries {entries : Entries Leaf} (h : ∀ name ∈ entries.names, IsBare name) :
    Lines (writeEntries entries) (entries.map statementOf) := by
  induction entries with
  | nil => exact nil
  | cons e rest ih =>
    have hfirst : IsBare e.1 := h e.1 List.mem_cons_self
    have hrest := ih fun name hname => h name (List.mem_cons_of_mem _ hname)
    exact (entry hfirst e.2).append hrest

theorem Lines.table {name : String} {entries : Entries Leaf} (hname : IsBare name)
    (h : ∀ name ∈ entries.names, IsBare name) :
    Lines (writeHeader name ++ writeEntries entries) (statementsOf (name, entries)) := by
  have hheader : writeHeader name = headerLine name ++ ['\n'] := by
    simp [writeHeader, headerLine]
  rw [hheader]
  exact (header hname).append (Lines.entries h)

/-- The pieces of a document, and the statements of each. -/
def piecesOf (top : Entries Leaf) (tables : Entries (Entries Leaf)) :
    List (List Char × List Statement) :=
  (if top.isEmpty then [] else [(writeEntries top, top.map statementOf)])
    ++ (tables.filter (!·.2.isEmpty)).map fun t =>
      (writeHeader t.1 ++ writeEntries t.2, statementsOf t)

theorem toList_writeDocument (top : Entries Leaf) (tables : Entries (Entries Leaf)) :
    (writeDocument top tables).toList
      = ['\n'].intercalate ((piecesOf top tables).map Prod.fst) := by
  rw [writeDocument, String.toList_ofList, piecesOf, List.map_append, List.map_map]
  split <;> rfl

theorem statements_piecesOf (top : Entries Leaf) (tables : Entries (Entries Leaf)) :
    (piecesOf top tables).flatMap Prod.snd
      = top.map statementOf ++ (tables.filter (!·.2.isEmpty)).flatMap statementsOf := by
  rw [piecesOf, List.flatMap_append, List.flatMap_map]
  split
  · rename_i hempty
    rw [List.isEmpty_iff.mp hempty]
    rfl
  · rw [List.flatMap_cons, List.flatMap_nil, List.append_nil]

theorem WellNamed.lines {top : Entries Leaf} {tables : Entries (Entries Leaf)}
    (h : WellNamed top tables) :
    Lines (writeDocument top tables).toList ((piecesOf top tables).flatMap Prod.snd) := by
  rw [toList_writeDocument]
  apply Lines.intercalate
  intro piece hpiece
  rcases List.mem_append.mp hpiece with htop | htable
  · split at htop
    · cases htop
    · obtain rfl := List.mem_singleton.mp htop
      exact Lines.entries fun name hname => h.outer.2 name (List.mem_append_left _ hname)
  · obtain ⟨t, ht, rfl⟩ := List.mem_map.mp htable
    have hmem : t ∈ tables := (List.mem_filter.mp ht).1
    have hname : IsBare t.1 :=
      h.outer.2 t.1 (List.mem_append_right _ (List.mem_map_of_mem hmem))
    exact Lines.table hname (h.inner t hmem).2

/-- A document that has been written is read as the table that it was written from. -/
theorem read_writeDocument {top : Entries Leaf} {tables : Entries (Entries Leaf)}
    (h : WellNamed top tables) :
    read (writeDocument top tables) = some (documentTable top tables) := by
  have hlines := h.lines
  rw [read]
  simp only [hlines.dropMark_eq, hlines.readStatements_eq, Option.bind_eq_bind,
    Option.bind_some, statements_piecesOf]
  exact document_statements (h.filter (!·.2.isEmpty))

end StructuredOutput.Toml
