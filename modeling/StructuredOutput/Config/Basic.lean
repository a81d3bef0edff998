import StructuredOutput.Request
import StructuredOutput.Router

/-!
# Configuration

What the user sets once: the provider for commands that name none, how model names are
routed, and the options of OpenAI requests.
-/

namespace StructuredOutput

/-- How model names begin, for each provider, and the provider of all other models. -/
structure Routing where
  openAI : List String
  anthropic : List String
  gemini : List String
  ollama : List String
  fallback : Provider
  deriving DecidableEq

/-- The options of OpenAI requests. -/
structure OpenAIOptions where
  strict : Bool
  /-- The name of the response format, where it is not the schema's. -/
  schemaName : Option String
  deriving DecidableEq

/-- A configuration. -/
structure Config where
  defaultProvider : Provider
  routing : Routing
  openAI : OpenAIOptions
  deriving DecidableEq

namespace Routing

/-- The beginnings that belong to a provider. -/
def beginnings (r : Routing) : Provider → List String
  | .openAI => r.openAI
  | .anthropic => r.anthropic
  | .gemini => r.gemini
  | .ollama => r.ollama

/-- The providers in the order in which they are asked. Local models come first, as they
may have names like those of hosted ones. -/
def precedence : List Provider := [.ollama, .openAI, .anthropic, .gemini]

/-- The router that asks the providers in the order of precedence. -/
def router (r : Routing) : Router where
  routes := precedence.flatMap fun p => (r.beginnings p).map (·, p)
  fallback := r.fallback

/-- How the hosted models of a provider begin. -/
def hosted (p : Provider) : List String :=
  (Router.hostedModels.filter (·.2 = p)).map Prod.fst

/-- The routing of the hosted models; all others are local. -/
def default : Routing where
  openAI := hosted .openAI
  anthropic := hosted .anthropic
  gemini := hosted .gemini
  ollama := hosted .ollama
  fallback := Router.localProvider

end Routing

namespace OpenAIOptions

/-- Strict, and with the names of schemas. -/
def default : OpenAIOptions := ⟨true, none⟩

end OpenAIOptions

namespace Config

/-- The configuration of a user who has set nothing. -/
def default : Config := ⟨.openAI, .default, .default⟩

/-- The provider of a model. -/
def route (c : Config) (model : String) : Provider := c.routing.router.route model

/-- The dialect of a provider, with the options of the configuration. -/
def dialect (c : Config) : Provider → Dialect
  | .openAI => .openAI c.openAI.strict c.openAI.schemaName
  | p => .ofProvider p

/-- The configuration as JSON. -/
def encode (c : Config) : Json.Value :=
  .object [
    ("default_provider", .string c.defaultProvider.name),
    ("routing", .object [
      ("openai", .texts c.routing.openAI),
      ("anthropic", .texts c.routing.anthropic),
      ("gemini", .texts c.routing.gemini),
      ("ollama", .texts c.routing.ollama),
      ("fallback", .string c.routing.fallback.name)]),
    ("openai", .object (
      [("strict", .boolean c.openAI.strict)]
        ++ match c.openAI.schemaName with
          | some name => [("schema_name", .string name)]
          | none => []))]

end Config

end StructuredOutput
