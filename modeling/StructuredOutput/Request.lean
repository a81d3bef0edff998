import StructuredOutput.Provider
import StructuredOutput.Json.Writer

/-!
# Requests

The part of a request that carries a schema, in the form that each provider takes, and the
prompts that carry it where no such part exists.
-/

namespace StructuredOutput

open Json (Value)

/-- A dialect with its options. -/
inductive Dialect where
  /-- Whether the provider is to hold the model to the schema, and the name of the response
  format where it is not the schema's. -/
  | openAI (strict : Bool) (formatName : Option String)
  | anthropic
  | gemini
  | ollama

namespace Dialect

/-- The provider that the dialect is for. -/
def provider : Dialect → Provider
  | openAI _ _ => .openAI
  | anthropic => .anthropic
  | gemini => .gemini
  | ollama => .ollama

/-- The dialect of a provider with the default options. -/
def ofProvider : Provider → Dialect
  | .openAI => openAI true none
  | .anthropic => anthropic
  | .gemini => gemini
  | .ollama => ollama

/-- The document of a schema. Options do not change it. -/
def compile (d : Dialect) (s : Schema) : Value := d.provider.compile s

/-- The name of the tool for a schema without a name. -/
def fallbackToolName : String := "structured_response"

/-- The name of the tool that takes a response. -/
def toolName (s : Schema) : String := if s.name.isEmpty then fallbackToolName else s.name

/-- The part of a request that asks for a response of the given schema. -/
def request (d : Dialect) (s : Schema) : Value :=
  let document := d.compile s
  match d with
  | openAI strict formatName =>
    let description : Entries Value :=
      if s.description.isEmpty then [] else [("description", .string s.description)]
    .object [("response_format", .object [
      ("type", .string "json_schema"),
      ("json_schema", .object (
        [("name", .string (OpenAI.formatName (formatName.getD s.name)))]
          ++ description
          ++ [("strict", .boolean strict), ("schema", document)]))])]
  | anthropic =>
    .object [
      ("tools", .array [.object [
        ("name", .string (toolName s)),
        ("description", .string s.description),
        ("input_schema", document)]]),
      ("tool_choice", .object [
        ("type", .string "tool"),
        ("name", .string (toolName s))])]
  | gemini =>
    .object [("generationConfig", .object [
      ("responseMimeType", .string "application/json"),
      ("responseSchema", document)])]
  | ollama => .object [("format", document)]

end Dialect

/-! ## Prompts -/

/-- The prompt that asks for a response matching the schema, for a schema that travels in
the prompt. -/
def Anthropic.schemaPrompt (s : Schema) : String :=
  "Please provide a JSON response matching exactly this schema:\n"
    ++ (Provider.anthropic.compile s).pretty
    ++ "\n\nYour response must be valid JSON that matches the schema above."

/-- The prompt that asks to repeat a free answer under the names of the schema. -/
def Ollama.structurePrompt (s : Schema) : String :=
  "Based on the previous response to the prompt, provide a JSON response using the following keys: "
    ++ ", ".intercalate s.fieldNames

end StructuredOutput
