import StructuredOutput.Text.Hexadecimal

/-!
# Strings in TOML

The four forms of a string (basic and literal, each on one line or on several), their
writer and their reader. The writer takes the first form that needs no escape, and escapes
only where every form would need one. The reader first finds the end of a string and then
undoes its escapes.
-/

namespace StructuredOutput.Toml

/-! ## Characters -/

/-- Whether a character may stand unescaped in a string or a comment, line breaks aside. -/
def isPlain (c : Char) : Bool := c == '\t' || (' ' ≤ c && c != '\x7f')

/-- Whether a character can only be written with an escape. -/
def isControl (c : Char) : Bool := !isPlain c && c != '\n'

def isWhitespace (c : Char) : Bool := c == ' ' || c == '\t'

/-! ## Writing -/

/-- The hexadecimal digit, a capital letter from ten on. -/
def capitalHex (n : Nat) : Char :=
  if n < 10 then Char.ofNat ('0'.toNat + n) else Char.ofNat ('A'.toNat + (n - 10))

/-- A character inside double quotes, a quote and a line break aside. -/
def escape (c : Char) : List Char :=
  if c = '\\' then ['\\', '\\']
  else if c = '\t' then ['\\', 't']
  else if c = '\x08' then ['\\', 'b']
  else if c = '\x0c' then ['\\', 'f']
  else if c = '\r' then ['\\', 'r']
  else if isControl c then
    ['\\', 'u', '0', '0', capitalHex (c.toNat / 16), capitalHex (c.toNat % 16)]
  else [c]

/-- A text between double quotes on one line. -/
def escapeLine : List Char → List Char
  | [] => []
  | c :: rest =>
    (if c = '"' then ['\\', '"'] else if c = '\n' then ['\\', 'n'] else escape c)
      ++ escapeLine rest

/-- A text between three double quotes. Of quotes in a row, of which some have been
written, each third is escaped. -/
def escapeLines (written : Nat) : List Char → List Char
  | [] => []
  | c :: rest =>
    if c = '"' then
      if written = 2 then '\\' :: '"' :: escapeLines 0 rest
      else '"' :: escapeLines (written + 1) rest
    else (if c = '\n' then [c] else escape c) ++ escapeLines 0 rest

/-- The length of the longest run of a character, a run of the given length having just
been seen. -/
def longestRun (c : Char) (run : Nat) : List Char → Nat
  | [] => run
  | d :: rest =>
    if d = c then longestRun c (run + 1) rest else max run (longestRun c 0 rest)

/-- The forms of a string. -/
inductive Form where
  | basic
  | literal
  | basicLines
  | literalLines
  deriving DecidableEq

/-- The form in which a text is written: the first that needs no escape, or else a basic
one. -/
def Form.of (text : List Char) : Form :=
  let control := text.any isControl
  let breaks := text.contains '\n'
  let backslash := text.contains '\\'
  if !control && !backslash && !text.contains '"' && !breaks then basic
  else if !control && !text.contains '\'' && !breaks then literal
  else if !control && !backslash && longestRun '"' 0 text ≤ 2 then basicLines
  else if !control && longestRun '\'' 0 text ≤ 2 then literalLines
  else if breaks then basicLines
  else basic

/-- The line break behind the opening quotes, which is no part of the text: there is one if
the text has any. -/
def openingBreak (text : List Char) : List Char :=
  if text.contains '\n' then ['\n'] else []

/-- A text in the given form. -/
def Form.write (text : List Char) : Form → List Char
  | basic => '"' :: escapeLine text ++ ['"']
  | literal => '\'' :: text ++ ['\'']
  | basicLines =>
    ['"', '"', '"'] ++ openingBreak text ++ escapeLines 0 text ++ ['"', '"', '"']
  | literalLines => ['\'', '\'', '\''] ++ openingBreak text ++ text ++ ['\'', '\'', '\'']

/-- A text as a string. -/
def writeString (text : List Char) : List Char := (Form.of text).write text

/-! ## Finding the end -/

/-- A text and what is left behind it. -/
abbrev TextStep := Option (List Char × List Char)

/-- Puts characters before the text that a step has read. -/
def prepend (cs : List Char) (step : TextStep) : TextStep :=
  step.map fun (text, rest) => (cs ++ text, rest)

/-- Splits what follows an opening quote at the closing one. Where there are escapes, what
follows a backslash closes nothing. -/
def spanLine (quote : Char) (escapes : Bool) : List Char → TextStep
  | [] => none
  | c :: s =>
    if c = quote then some ([], s)
    else if escapes && c = '\\' then
      match s with
      | [] => none
      | d :: s => prepend [c, d] (spanLine quote escapes s)
    else prepend [c] (spanLine quote escapes s)

/-- Splits what follows three opening quotes at the three closing ones, a number of quotes
having just been passed. Of up to five quotes in a row the last three close the string. -/
def spanLines (quote : Char) (escapes : Bool) (count : Nat) : List Char → TextStep
  | [] => if 3 ≤ count then some (List.replicate (count - 3) quote, []) else none
  | c :: s =>
    if c = quote then
      if count = 5 then some ([quote, quote], c :: s)
      else spanLines quote escapes (count + 1) s
    else if 3 ≤ count then some (List.replicate (count - 3) quote, c :: s)
    else prepend (List.replicate count quote) <|
      if escapes && c = '\\' then
        match s with
        | [] => none
        | d :: s => prepend [c, d] (spanLines quote escapes 0 s)
      else prepend [c] (spanLines quote escapes 0 s)

/-! ## Undoing escapes -/

/-- The character that a one-letter escape stands for. -/
def escapeOf? : Char → Option Char
  | 'b' => some '\x08'
  | 't' => some '\t'
  | 'n' => some '\n'
  | 'f' => some '\x0c'
  | 'r' => some '\r'
  | '"' => some '"'
  | '\\' => some '\\'
  | _ => none

/-- The character whose code the hexadecimal digits give. -/
def charOf? (digits : List Char) : Option Char := do
  let code ← Text.hexadecimal? digits
  if code.isValidChar then some (Char.ofNat code) else none

/-- Whether nothing but blanks stands before the next line break. -/
def endsLine (s : List Char) : Bool :=
  match s.dropWhile isWhitespace with
  | '\n' :: _ => true
  | '\r' :: '\n' :: _ => true
  | _ => false

/-- Whether a character is a carriage return that belongs to a line break. -/
def beginsBreak (c : Char) (rest : List Char) : Bool :=
  c == '\r' && rest.head? == some '\n'

/-- The text that stands between double quotes. Every line break is a line feed; behind a
backslash at the end of a line, blanks and line breaks are skipped. -/
def unescape (skipping : Bool) : List Char → Option (List Char)
  | [] => some []
  | c :: s =>
    if skipping && (isWhitespace c || c == '\n' || beginsBreak c s) then unescape true s
    else if c = '\\' then
      if endsLine s then unescape true s
      else match s with
      | [] => none
      | e :: s =>
        match escapeOf? e with
        | some c => (c :: ·) <$> unescape false s
        | none =>
          if e = 'u' then
            match s with
            | a :: b :: c :: d :: s => do
              let c ← charOf? [a, b, c, d]
              (c :: ·) <$> unescape false s
            | _ => none
          else if e = 'U' then
            match s with
            | a :: b :: c :: d :: e :: f :: g :: h :: s => do
              let c ← charOf? [a, b, c, d, e, f, g, h]
              (c :: ·) <$> unescape false s
            | _ => none
          else none
    else if beginsBreak c s then unescape false s
    else if isPlain c || c == '\n' then (c :: ·) <$> unescape false s
    else none

/-- The text that stands between single quotes, where every line break is a line feed. -/
def unbreak : List Char → Option (List Char)
  | [] => some []
  | c :: s =>
    if beginsBreak c s then unbreak s
    else if isPlain c || c == '\n' then (c :: ·) <$> unbreak s
    else none

/-! ## Reading -/

/-- What follows opening quotes, without a line break at its beginning. -/
def dropOpeningBreak : List Char → List Char
  | '\n' :: s => s
  | '\r' :: '\n' :: s => s
  | s => s

/-- Decodes the text of a step. -/
def decodeText (decode : List Char → Option (List Char)) (step : TextStep) : TextStep := do
  let (text, rest) ← step
  let text ← decode text
  some (text, rest)

/-- A text that keeps to its line. -/
def onOneLine (text : List Char) : Option (List Char) :=
  if text.contains '\n' then none else some text

/-- Reads a string on one line, from its opening quote on. -/
def readLineString : List Char → TextStep
  | '"' :: s =>
    decodeText (fun t => do unescape false (← onOneLine t)) (spanLine '"' true s)
  | '\'' :: s => decodeText (fun t => do unbreak (← onOneLine t)) (spanLine '\'' false s)
  | _ => none

/-- Reads a string of any form, from its opening quotes on. -/
def readString : List Char → TextStep
  | '"' :: '"' :: '"' :: s =>
    decodeText (unescape false) (spanLines '"' true 0 (dropOpeningBreak s))
  | '\'' :: '\'' :: '\'' :: s =>
    decodeText unbreak (spanLines '\'' false 0 (dropOpeningBreak s))
  | s => readLineString s

end StructuredOutput.Toml
