import StructuredOutput.Dialect.Anthropic
import StructuredOutput.Dialect.Gemini
import StructuredOutput.Dialect.Ollama
import StructuredOutput.Dialect.OpenAI
import StructuredOutput.Text.Blank

/-!
# Providers

The providers of language models, each with a schema dialect of its own.
-/

namespace StructuredOutput

/-- A provider of language models. -/
inductive Provider where
  | openAI
  | anthropic
  | gemini
  | ollama
  deriving DecidableEq

namespace Provider

/-- The name of a provider, in configurations and on the command line. -/
def name : Provider → String
  | openAI => "openai"
  | anthropic => "anthropic"
  | gemini => "gemini"
  | ollama => "ollama"

/-- All providers. -/
def all : List Provider := [openAI, anthropic, gemini, ollama]

/-- The provider of exactly that name. -/
def ofName? (name : String) : Option Provider := all.find? (·.name == name)

/-- The provider that a word means: its name or its other name, blanks around it and ASCII
case aside. -/
def recognize? (word : String) : Option Provider :=
  match String.ofList ((Text.trim word.toList).map Text.lowerAscii) with
  | "openai" | "gpt" => some openAI
  | "anthropic" | "claude" => some anthropic
  | "gemini" | "google" => some gemini
  | "ollama" | "local" => some ollama
  | _ => none

/-- The rules of the provider's dialect. -/
def rules : Provider → Rules
  | openAI => OpenAI.rules
  | anthropic => Anthropic.rules
  | gemini => Gemini.rules
  | ollama => Ollama.rules

/-- The document of a schema in the provider's dialect. -/
def compile (p : Provider) (s : Schema) : Json.Value := p.rules.compile s

end Provider

end StructuredOutput
