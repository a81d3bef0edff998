import StructuredOutput.Error
import StructuredOutput.Schema.Encode

/-!
# Commands

The commands of the program: how they are written as words, and how they are answered. A
command reads at most one source; it is answered with a JSON value or with a text, which
are laid out only afterwards.
-/

namespace StructuredOutput

/-- Where a schema document is read from. -/
inductive Source where
  | stdin
  | file (path : String)
  deriving DecidableEq

namespace Source

/-- The word for standard input. -/
def stdinWord : String := "-"

def ofWord (word : String) : Source := if word = stdinWord then stdin else file word

def word : Source → String
  | stdin => stdinWord
  | file path => path

end Source

/-- A command. -/
inductive Command where
  /-- Compiles a document for a provider, or for the default one. -/
  | compile (provider : Option Provider) (source : Source)
  /-- Builds the part of a request that carries a schema, for the provider of a model. -/
  | request (model : String) (source : Source)
  /-- Rebuilds the schema that a document describes. -/
  | decompile (source : Source)
  /-- Tells the provider of a model. -/
  | route (model : String)
  | help
  deriving DecidableEq

namespace Command

/-! ## Words -/

/-- The words that ask for help, whatever follows them. -/
def helpWords : List String := ["help", "-h", "--help"]

/-- What the words of a command look like, behind its name or with other numbers of
words. -/
def usageError (name expected : String) : Error := .usage name (name ++ " " ++ expected)

/-- The command that words mean. Without any word it is `help`. -/
def ofWords : List String → Except Error Command
  | [] => .ok help
  | first :: rest =>
    if first ∈ helpWords then .ok help
    else match first, rest with
      | "compile", [source] => .ok (compile none (.ofWord source))
      | "compile", [provider, source] => do
        .ok (compile (some (← Provider.ofWord provider)) (.ofWord source))
      | "compile", _ => .error (usageError "compile" "[provider] <file|->")
      | "request", [model, source] => .ok (request model (.ofWord source))
      | "request", _ => .error (usageError "request" "<model> <file|->")
      | "decompile", [source] => .ok (decompile (.ofWord source))
      | "decompile", _ => .error (usageError "decompile" "<file|->")
      | "route", [model] => .ok (route model)
      | "route", _ => .error (usageError "route" "<model>")
      | first, _ => .error (.unknownCommand first)

/-- The words of a command. -/
def words : Command → List String
  | compile none source => ["compile", source.word]
  | compile (some provider) source => ["compile", provider.name, source.word]
  | request model source => ["request", model, source.word]
  | decompile source => ["decompile", source.word]
  | route model => ["route", model]
  | help => ["help"]

/-- What a command reads. -/
def source? : Command → Option Source
  | compile _ source | request _ source | decompile source => some source
  | route _ | help => none

/-! ## Answers -/

/-- What a command is answered with. -/
inductive Answer where
  | value (value : Json.Value)
  | text (text : String)

/-- An answer as it is printed. -/
def Answer.layout : Answer → String
  | value v => v.pretty
  | text t => t

/-- The schema in a source, given what reading the source gives. -/
def schemaIn (content : Except FileError String) : Except Error Schema :=
  match content with
  | .ok text => Schema.read text
  | .error e => .error (.file e)

/-- How the program is used. -/
def usage : String :=
"greenland-schema: compile JSON-Schema documents into LLM structured-output dialects

Usage:
  greenland-schema compile [provider] <file|->   Compile for a provider (default from config)
  greenland-schema request <model> <file|->      Request fragment for the provider serving <model>
  greenland-schema decompile <file|->            Print the reconstructed schema
  greenland-schema route <model>                 Show which provider serves <model>
  greenland-schema help                          Show this help message

Providers:
  openai, anthropic, gemini, ollama

Examples:
  greenland-schema compile gemini word_definitions.json
  cat translation.json | greenland-schema request gpt-4o-mini -
  RUST_LOG=debug greenland-schema compile openai sentences.json
"

/-- The answer to a command under a configuration; `read` tells what reading a source
gives. -/
def answer (c : Config) (read : Source → Except FileError String) :
    Command → Except Error Answer
  | compile provider source => do
    let schema ← schemaIn (read source)
    .ok (.value ((c.dialect (provider.getD c.defaultProvider)).compile schema))
  | request model source => do
    let schema ← schemaIn (read source)
    .ok (.value ((c.dialect (c.route model)).request schema))
  | decompile source => do
    let schema ← schemaIn (read source)
    .ok (.value schema.encode)
  | route model => .ok (.text (c.route model).name)
  | help => .ok (.text usage)

/-- The printed answer to a command. -/
def output (c : Config) (read : Source → Except FileError String) (command : Command) :
    Except Error String :=
  Answer.layout <$> answer c read command

end Command

end StructuredOutput
