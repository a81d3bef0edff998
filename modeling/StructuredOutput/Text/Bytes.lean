/-!
# Bytes of a text

Lengths and places counted in bytes of the UTF-8 form, with lines counted from one.
-/

namespace StructuredOutput.Text

/-- The length of the UTF-8 form. -/
def byteLength (cs : List Char) : Nat := cs.foldl (· + ·.utf8Size) 0

/-- A place in a text: its line, counted from one, and the bytes before it on that line. -/
structure Position where
  line : Nat
  column : Nat
  deriving DecidableEq

/-- The place after `offset` bytes of the text, starting at the given place. An offset
inside a character counts that character's bytes up to it. -/
def Position.advance (p : Position) : Nat → List Char → Position
  | _, [] => p
  | offset, c :: rest =>
    if offset < c.utf8Size then { p with column := p.column + offset }
    else if c = '\n' then advance { line := p.line + 1, column := 0 } (offset - 1) rest
    else advance { p with column := p.column + c.utf8Size } (offset - c.utf8Size) rest

/-- The place after `offset` bytes of the text. -/
def Position.after (offset : Nat) (text : List Char) : Position :=
  Position.advance { line := 1, column := 0 } offset text

end StructuredOutput.Text
