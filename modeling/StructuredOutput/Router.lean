import StructuredOutput.Provider

/-!
# Routing

A router picks the provider of a model by the beginning of its name.
-/

namespace StructuredOutput

/-- Beginnings of model names, each with a provider, and the provider of all other
models. -/
structure Router where
  routes : List (String × Provider)
  fallback : Provider
  deriving DecidableEq

namespace Router

/-- Whether a model's name begins with the given text. -/
def begins (model beginning : String) : Bool := beginning.toList.isPrefixOf model.toList

/-- A router without routes. -/
def empty (fallback : Provider) : Router := ⟨[], fallback⟩

/-- The router with a route added behind the others. -/
def withRoute (beginning : String) (provider : Provider) (r : Router) : Router :=
  { r with routes := r.routes ++ [(beginning, provider)] }

/-- The provider of a model: that of the first route whose text begins its name. -/
def route (r : Router) (model : String) : Provider :=
  match r.routes.find? fun route => begins model route.1 with
  | some (_, provider) => provider
  | none => r.fallback

/-- How the names of hosted models begin. -/
def hostedModels : List (String × Provider) := [
  ("gpt-", .openAI),
  ("chatgpt-", .openAI),
  ("o1", .openAI),
  ("o3", .openAI),
  ("o4", .openAI),
  ("claude-", .anthropic),
  ("gemini-", .gemini)]

/-- The provider of models of which nothing is known: they are served locally. -/
def localProvider : Provider := .ollama

/-- The router for the hosted models. -/
def default : Router := ⟨hostedModels, localProvider⟩

end Router

end StructuredOutput
