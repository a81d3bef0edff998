import StructuredOutput.Config.Basic
import StructuredOutput.Toml.Reader
import StructuredOutput.Toml.Writer

/-!
# Configurations as TOML

A configuration file need not set everything. What it sets is an `Overlay`, which is laid
over the default configuration setting by setting; an overlay is read from a table and
written to one. Keys without a meaning are passed over. The settings of a nested table may
also be given as a list, in their fixed order.
-/

namespace StructuredOutput

/-- The settings of a configuration, each of which may be left open. -/
structure Overlay where
  defaultProvider : Option Provider := none
  openAI : Option (List String) := none
  anthropic : Option (List String) := none
  gemini : Option (List String) := none
  ollama : Option (List String) := none
  fallback : Option Provider := none
  strict : Option Bool := none
  schemaName : Option String := none

namespace Overlay

/-! ## Overlays and configurations -/

/-- The configuration with the settings of the overlay in place of its own. -/
def onto (o : Overlay) (c : Config) : Config where
  defaultProvider := o.defaultProvider.getD c.defaultProvider
  routing := {
    openAI := o.openAI.getD c.routing.openAI
    anthropic := o.anthropic.getD c.routing.anthropic
    gemini := o.gemini.getD c.routing.gemini
    ollama := o.ollama.getD c.routing.ollama
    fallback := o.fallback.getD c.routing.fallback }
  openAI := {
    strict := o.strict.getD c.openAI.strict
    schemaName := o.schemaName.or c.openAI.schemaName }

/-- The overlay that sets everything as a configuration has it. A name that is not set
stays open. -/
def ofConfig (c : Config) : Overlay where
  defaultProvider := some c.defaultProvider
  openAI := some c.routing.openAI
  anthropic := some c.routing.anthropic
  gemini := some c.routing.gemini
  ollama := some c.routing.ollama
  fallback := some c.routing.fallback
  strict := some c.openAI.strict
  schemaName := c.openAI.schemaName

/-! ## Writing -/

/-- The entry of a setting, unless it is open. -/
def entry (key : String) (leaf : α → Toml.Leaf) : Option α → List (String × Toml.Leaf)
  | some a => [(key, leaf a)]
  | none => []

/-- The text of the file that sets what the overlay sets. -/
def write (o : Overlay) : String :=
  let provider (p : Provider) := Toml.Leaf.text p.name
  Toml.writeDocument (entry "default_provider" provider o.defaultProvider) [
    ("routing",
      entry "openai" .texts o.openAI ++ entry "anthropic" .texts o.anthropic
        ++ entry "gemini" .texts o.gemini ++ entry "ollama" .texts o.ollama
        ++ entry "fallback" provider o.fallback),
    ("openai", entry "strict" .flag o.strict ++ entry "schema_name" .text o.schemaName)]

/-! ## Reading values -/

/-- Refuses a value that is not what stands in its place. -/
def refuse (v : Toml.Value) (expected : String) : Except Mismatch α :=
  .error (.kind v.found expected)

def text : Toml.Value → Except Mismatch String
  | .string s => .ok s
  | v => refuse v "a string"

def flag : Toml.Value → Except Mismatch Bool
  | .boolean b => .ok b
  | v => refuse v "a boolean"

def texts (v : Toml.Value) : Except Mismatch (List String) :=
  match v.items? with
  | some items => items.mapM text
  | none => refuse v "a sequence"

def providerNamed (name : String) : Except Mismatch Provider :=
  match Provider.ofName? name with
  | some p => .ok p
  | none => .error (.unknownVariant name (Provider.all.map Provider.name))

/-- The name of a provider, alone or as the only key of a table, with nothing behind it. -/
def provider : Toml.Value → Except Mismatch Provider
  | .string name => providerNamed name
  | .table [] => .error .noVariant
  | .table [(name, content)] => do
    let p ← providerNamed name
    match content with
    | .table [] | .array [] => .ok p
    | .table _ | .array _ => .error .notEmptyTable
    | .tables _ => .error .notEmptyArray
    | v => .error (.notTable v.kindName)
  | .table _ => .error .severalVariants
  | _ => .error .notVariant

/-! ## Reading settings -/

/-- Takes the value of a setting into an overlay. -/
abbrev Setting := Overlay → Toml.Value → Except Mismatch Overlay

def setOpenAI : Setting := fun o v => do .ok { o with openAI := some (← texts v) }
def setAnthropic : Setting := fun o v => do .ok { o with anthropic := some (← texts v) }
def setGemini : Setting := fun o v => do .ok { o with gemini := some (← texts v) }
def setOllama : Setting := fun o v => do .ok { o with ollama := some (← texts v) }
def setFallback : Setting := fun o v => do .ok { o with fallback := some (← provider v) }
def setStrict : Setting := fun o v => do .ok { o with strict := some (← flag v) }
def setSchemaName : Setting := fun o v => do .ok { o with schemaName := some (← text v) }

/-- Takes settings into an overlay in the order in which they stand. -/
def setAll (settings : List (String × Setting)) (o : Overlay) :
    Entries Toml.Value → Except Mismatch Overlay
  | [] => .ok o
  | (key, v) :: rest =>
    match settings.lookup key with
    | some set => do setAll settings (← set o v) rest
    | none => setAll settings o rest

/-- Takes settings into an overlay that are given as a list in their fixed order; further
items are passed over. -/
def setInOrder (o : Overlay) :
    List (String × Setting) → List Toml.Value → Except Mismatch Overlay
  | (_, set) :: settings, v :: rest => do setInOrder (← set o v) settings rest
  | _, _ => .ok o

/-- Takes a table of settings into an overlay, or a list of them. The parts of a date have
no meaning as settings. -/
def setNested (name : String) (settings : List (String × Setting)) : Setting
  | o, .table entries => setAll settings o entries
  | o, .array items => setInOrder o settings items
  | o, .tables elements => setInOrder o settings elements
  | o, .moment _ => .ok o
  | _, v => refuse v name

/-- The settings of the routing. -/
def routingSettings : List (String × Setting) := [
  ("openai", setOpenAI),
  ("anthropic", setAnthropic),
  ("gemini", setGemini),
  ("ollama", setOllama),
  ("fallback", setFallback)]

/-- The settings of OpenAI requests. -/
def openAISettings : List (String × Setting) := [
  ("strict", setStrict),
  ("schema_name", setSchemaName)]

/-- The settings of a configuration. -/
def settings : List (String × Setting) := [
  ("default_provider", fun o v => do
    .ok { o with defaultProvider := some (← provider v) }),
  ("routing", setNested "struct RoutingConfig" routingSettings),
  ("openai", setNested "struct OpenAIConfig" openAISettings)]

/-- The overlay that a table of settings amounts to. -/
def ofTable (entries : Entries Toml.Value) : Except Mismatch Overlay :=
  setAll settings {} entries

end Overlay

/-! ## Configuration files -/

/-- Why a text is no configuration. -/
inductive ConfigError where
  /-- It is no TOML. -/
  | notToml
  /-- It sets something to a value that does not fit. -/
  | mismatch (mismatch : Mismatch)

def ConfigError.message : ConfigError → String
  | notToml => "invalid TOML"
  | mismatch m => m.message

namespace Config

/-- The configuration that a text describes: the default one, with what the text sets. -/
def ofText (text : String) : Except ConfigError Config :=
  match Toml.read text with
  | none => .error .notToml
  | some entries =>
    match Overlay.ofTable entries with
    | .error m => .error (.mismatch m)
    | .ok o => .ok (o.onto default)

/-- The text that describes a configuration in full. -/
def toText (c : Config) : String := (Overlay.ofConfig c).write

end Config

end StructuredOutput
