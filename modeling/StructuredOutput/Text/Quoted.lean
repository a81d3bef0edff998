import StructuredOutput.Text.Unprintable

/-!
# Quoted texts in messages

A text in double quotes, as messages show it: quotes and backslashes are escaped, and so is
every character that would not be seen.
-/

namespace StructuredOutput.Text

/-- A character inside quotes. -/
def shown (c : Char) : String :=
  match c with
  | '"' => "\\\""
  | '\\' => "\\\\"
  | '\n' => "\\n"
  | '\r' => "\\r"
  | '\t' => "\\t"
  | '\x00' => "\\0"
  | c =>
    if isUnprintable c then "\\u\x7b" ++ String.ofList (Nat.toDigits 16 c.toNat) ++ "\x7d"
    else c.toString

/-- The text in quotes. -/
def quote (s : String) : String := "\"" ++ String.join (s.toList.map shown) ++ "\""

end StructuredOutput.Text
