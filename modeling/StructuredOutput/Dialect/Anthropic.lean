import StructuredOutput.Dialect.Rules

/-!
# The Anthropic dialect

A plain schema document. Fields are required as their flags say, nested objects forbid
other names, and fragments stay as they are.
-/

namespace StructuredOutput.Anthropic

/-- The rules of the dialect. -/
def rules : Rules where
  demands := (·.required)
  writesDefault := true
  fragment := id
  closing _ := []
  nestedClosing _ _ := [("additionalProperties", .boolean false)]
  finish := id

end StructuredOutput.Anthropic
