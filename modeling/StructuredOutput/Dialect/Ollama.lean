import StructuredOutput.Dialect.Rules

/-!
# The Ollama dialect

A plain schema document. Fields are required as their flags say, an object on its own
forbids other names, and a nested one allows them if it was declared so.
-/

namespace StructuredOutput.Ollama

/-- The rules of the dialect. -/
def rules : Rules where
  demands := (·.required)
  writesDefault := true
  fragment := id
  closing _ := [("additionalProperties", .boolean false)]
  nestedClosing _ extra := [("additionalProperties", .boolean extra)]
  finish := id

end StructuredOutput.Ollama
