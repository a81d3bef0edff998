import StructuredOutput.Toml.Quoted
import StructuredOutput.Toml.Scalar
import StructuredOutput.Toml.Table

/-!
# Reading TOML

From the text of a document to its table. `readValue` descends into at most so many
brackets, so the recursion is on that number; lists of items, keys and statements are read
by loops that end since each of these takes at least one character.
-/

namespace StructuredOutput.Toml

/-! ## Between values -/

def skipWhitespace (s : List Char) : List Char := s.dropWhile isWhitespace

/-- Skips blanks, line breaks and comments, perhaps from inside a comment on. -/
def skipFiller (inComment : Bool) : List Char → List Char
  | [] => []
  | c :: s =>
    if inComment && isPlain c then skipFiller true s
    else if isWhitespace c || c == '\n' || beginsBreak c s then skipFiller false s
    else if c == '#' then skipFiller true s
    else c :: s

/-- What is left behind a line break, or nothing at the end of the text. -/
def readBreak : List Char → Option (List Char)
  | [] => some []
  | '\n' :: s => some s
  | '\r' :: '\n' :: s => some s
  | _ => none

/-- What is left behind the rest of a line that holds nothing but blanks and a comment. -/
def endLine (s : List Char) : Option (List Char) :=
  match skipWhitespace s with
  | '#' :: s => readBreak (s.dropWhile isPlain)
  | s => readBreak s

/-! ## Keys -/

/-- Whether a character may stand in a key without quotes. -/
def isBare (c : Char) : Bool := c.isAlphanum || c == '-' || c == '_'

/-- Reads one part of a key. -/
def readKeyPart (s : List Char) : TextStep :=
  match s with
  | '"' :: _ | '\'' :: _ => readLineString s
  | s =>
    let name := s.takeWhile isBare
    if name.isEmpty then none else some (name, s.dropWhile isBare)

/-- Reads the parts of a key, with points between them and blanks around them. -/
def readKeyParts : Nat → List Char → Option (List String × List Char)
  | 0, _ => none
  | count + 1, s => do
    let (part, s) ← readKeyPart (skipWhitespace s)
    match skipWhitespace s with
    | '.' :: s => do
      let (parts, s) ← readKeyParts count s
      some (String.ofList part :: parts, s)
    | s => some ([String.ofList part], s)

/-- How many parts a key may have, and how deep values may be nested. -/
def nestingLimit : Nat := 79

/-- Reads a key: the tables on the way and the name at its end. -/
def readKey (s : List Char) : Option ((List String × String) × List Char) := do
  let (parts, rest) ← readKeyParts nestingLimit s
  let last ← parts.getLast?
  some ((parts.dropLast, last), rest)

/-! ## Values -/

/-- Reads a key, an equals sign and a value. -/
def readAssignment (value : List Char → ValueStep) (s : List Char) :
    Option (Assignment × List Char) := do
  let ((path, key), s) ← readKey s
  match s with
  | '=' :: s => do
    let (v, s) ← value (skipWhitespace s)
    some (⟨path, key, v⟩, s)
  | _ => none

/-- Reads the items of an array behind its opening bracket or a comma. The count bounds
their number. -/
def readItems (value : List Char → ValueStep) :
    Nat → List Char → Option (List Value × List Char)
  | 0, _ => none
  | count + 1, s =>
    match skipFiller false s with
    | ']' :: s => some ([], s)
    | s => do
      let (v, s) ← value s
      match skipFiller false s with
      | ']' :: s => some ([v], s)
      | ',' :: s => do
        let (vs, s) ← readItems value count s
        some (v :: vs, s)
      | _ => none

/-- Reads the assignments of an inline table, at least one, up to its closing brace. -/
def readMembers (value : List Char → ValueStep) :
    Nat → List Char → Option (List Assignment × List Char)
  | 0, _ => none
  | count + 1, s => do
    let (a, s) ← readAssignment value s
    match skipWhitespace s with
    | '}' :: s => some ([a], s)
    | ',' :: s => do
      let (rest, s) ← readMembers value count s
      some (a :: rest, s)
    | _ => none

/-- Reads an inline table behind its opening brace. -/
def readInlineTable (value : List Char → ValueStep) (s : List Char) : ValueStep :=
  match skipWhitespace s with
  | '}' :: s => some (.table [], s)
  | s => do
    let (assignments, rest) ← readMembers value s.length s
    let entries ← inlineTable assignments
    some (.table entries, rest)

/-- Reads a certain word. -/
def readWord (word : List Char) (value : Value) (s : List Char) : ValueStep :=
  if word.isPrefixOf s then some (value, s.drop word.length) else none

/-- Reads a value with at most `depth` brackets around its innermost part. -/
def readValue : Nat → List Char → ValueStep
  | _, [] => none
  | depth, c :: s =>
    if c = '"' ∨ c = '\'' then
      (readString (c :: s)).map fun (text, rest) => (.string (String.ofList text), rest)
    else if c = '[' then
      match depth with
      | 0 => none
      | depth + 1 => do
        let (items, rest) ← readItems (readValue depth) s.length s
        some (.array items, rest)
    else if c = '{' then
      match depth with
      | 0 => none
      | depth + 1 => readInlineTable (readValue depth) s
    else if c = 't' then readWord "true".toList (.boolean true) (c :: s)
    else if c = 'f' then readWord "false".toList (.boolean false) (c :: s)
    else readScalar (c :: s)

/-! ## Statements -/

/-- Reads a header, from its opening bracket on. -/
def readHeader (s : List Char) : Option (Header × List Char) :=
  match s with
  | '[' :: '[' :: s => do
    let ((path, key), s) ← readKey s
    match s with
    | ']' :: ']' :: s => some (⟨path, key, true⟩, s)
    | _ => none
  | '[' :: s => do
    let ((path, key), s) ← readKey s
    match s with
    | ']' :: s => some (⟨path, key, false⟩, s)
    | _ => none
  | _ => none

/-- Reads a header or an assignment. -/
def readStatement (s : List Char) : Option (Statement × List Char) :=
  match s with
  | '[' :: _ => (readHeader s).map fun (h, rest) => (.header h, rest)
  | s => (readAssignment (readValue nestingLimit) s).map fun (a, rest) =>
    (.assignment a, rest)

/-- Reads statements, one to a line, up to the end of the text. The count bounds the number
of lines. -/
def readStatements : Nat → List Char → Option (List Statement)
  | 0, s => if s.isEmpty then some [] else none
  | count + 1, s =>
    match skipWhitespace s with
    | [] => some []
    | s =>
      match endLine s with
      | some rest => readStatements count rest
      | none => do
        let (statement, s) ← readStatement s
        let rest ← endLine s
        let statements ← readStatements count rest
        some (statement :: statements)

/-- The text without the mark that may stand at its beginning. -/
def dropMark : List Char → List Char
  | '\ufeff' :: s => s
  | s => s

/-- Reads the text of a document. -/
def read (text : String) : Option (Entries Value) := do
  let s := dropMark text.toList
  document (← readStatements (s.length + 1) s)

end StructuredOutput.Toml
