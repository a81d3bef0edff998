import StructuredOutput.Command
import StructuredOutput.Config.Basic
import StructuredOutput.Config.Overlay
import StructuredOutput.Dialect.Anthropic
import StructuredOutput.Dialect.Gemini
import StructuredOutput.Dialect.Ollama
import StructuredOutput.Dialect.OpenAI
import StructuredOutput.Dialect.Rules
import StructuredOutput.Entries
import StructuredOutput.Error
import StructuredOutput.Files.Error
import StructuredOutput.Files.Path
import StructuredOutput.Files.System
import StructuredOutput.Json.Reader
import StructuredOutput.Json.Value
import StructuredOutput.Json.Writer
import StructuredOutput.Main
import StructuredOutput.Mismatch
import StructuredOutput.Number.Binary64
import StructuredOutput.Number.Shortest
import StructuredOutput.Program
import StructuredOutput.Proofs.Command
import StructuredOutput.Proofs.Command.Words
import StructuredOutput.Proofs.Config
import StructuredOutput.Proofs.Entries
import StructuredOutput.Proofs.Entries.Assembled
import StructuredOutput.Proofs.Files.Written
import StructuredOutput.Proofs.Gemini.Order
import StructuredOutput.Proofs.Gemini.StatedOrder
import StructuredOutput.Proofs.Json.Address
import StructuredOutput.Proofs.Json.Distinct
import StructuredOutput.Proofs.Json.Level
import StructuredOutput.Proofs.Json.Walk
import StructuredOutput.Proofs.OpenAI.Bounds
import StructuredOutput.Proofs.OpenAI.FormatName
import StructuredOutput.Proofs.OpenAI.Fragments
import StructuredOutput.Proofs.OpenAI.Passes
import StructuredOutput.Proofs.OpenAI.Reach
import StructuredOutput.Proofs.OpenAI.StrictEntries
import StructuredOutput.Proofs.OpenAI.StrictMode
import StructuredOutput.Proofs.OpenAI.Strictify
import StructuredOutput.Proofs.Provider
import StructuredOutput.Proofs.Routing
import StructuredOutput.Proofs.Rules
import StructuredOutput.Proofs.Schema.Agreement
import StructuredOutput.Proofs.Schema.Assembly
import StructuredOutput.Proofs.Schema.Content
import StructuredOutput.Proofs.Schema.Declared
import StructuredOutput.Proofs.Schema.Decode
import StructuredOutput.Proofs.Schema.Disagreement
import StructuredOutput.Proofs.Schema.Distinct
import StructuredOutput.Proofs.Schema.Document
import StructuredOutput.Proofs.Schema.Keywords
import StructuredOutput.Proofs.Schema.Levels
import StructuredOutput.Proofs.Schema.Meaning
import StructuredOutput.Proofs.Schema.NormalForm
import StructuredOutput.Proofs.Schema.Parts
import StructuredOutput.Proofs.Schema.Pieces
import StructuredOutput.Proofs.Schema.ReadBack
import StructuredOutput.Proofs.Schema.Recompile
import StructuredOutput.Proofs.Schema.SecondPass
import StructuredOutput.Proofs.Schema.Settled
import StructuredOutput.Proofs.Schema.SourceLevels
import StructuredOutput.Proofs.Schema.Spelled
import StructuredOutput.Proofs.Schema.Stored
import StructuredOutput.Proofs.Schema.Subschemas
import StructuredOutput.Proofs.Schema.Translation
import StructuredOutput.Proofs.Toml.Document
import StructuredOutput.Proofs.Toml.Quoted
import StructuredOutput.Provider
import StructuredOutput.Request
import StructuredOutput.Router
import StructuredOutput.Schema.Basic
import StructuredOutput.Schema.Decode
import StructuredOutput.Schema.Document
import StructuredOutput.Schema.Encode
import StructuredOutput.Schema.Equiv
import StructuredOutput.Text.Blank
import StructuredOutput.Text.Bytes
import StructuredOutput.Text.Hexadecimal
import StructuredOutput.Text.Quoted
import StructuredOutput.Text.Unprintable
import StructuredOutput.Toml.Quoted
import StructuredOutput.Toml.Reader
import StructuredOutput.Toml.Scalar
import StructuredOutput.Toml.Table
import StructuredOutput.Toml.Value
import StructuredOutput.Toml.Writer
