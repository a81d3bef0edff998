import StructuredOutput.Config.Overlay
import StructuredOutput.Files.System
import StructuredOutput.Schema.Decode
import StructuredOutput.Schema.Document

/-!
# Errors

Everything that can go wrong around schemas: reading files and texts, and understanding
commands. Compiling a schema and rebuilding one from a document cannot fail.
-/

namespace StructuredOutput

/-- An error. -/
inductive Error where
  | file (error : FileError)
  | syntaxError (error : Json.SyntaxError)
  | mismatch (mismatch : Mismatch)
  | config (error : ConfigError)
  | unknownProvider (name : String)
  | unknownCommand (name : String)
  | usage (command expected : String)

def Error.message : Error → String
  | file e => "IO error: " ++ e.message
  | syntaxError e => "Serialization error: " ++ e.message
  | mismatch m => "Serialization error: " ++ m.message
  | config e => "Failed to parse config file: " ++ e.message
  | unknownProvider name =>
    "Unknown provider: " ++ name ++ " (expected openai, anthropic, gemini or ollama)"
  | unknownCommand name => "Unknown command: " ++ name
  | usage command expected =>
    "Invalid syntax for '" ++ command ++ "', expected: " ++ expected

/-- The provider that a word means. -/
def Provider.ofWord (word : String) : Except Error Provider :=
  match recognize? word with
  | some p => .ok p
  | none => .error (.unknownProvider word)

/-- The value in a JSON text. -/
def Json.read (text : String) : Except Error Json.Value :=
  (Value.parse text).mapError .syntaxError

/-- The schema that the text of a document describes. -/
def Schema.read (text : String) : Except Error Schema :=
  (ofText text).mapError .syntaxError

/-- The schema whose stored form is in a text. -/
def Schema.readStored (text : String) : Except Error Schema := do
  (Schema.decode (← Json.read text)).mapError .mismatch

/-- The field whose stored form is in a text. -/
def Field.readStored (text : String) : Except Error Field := do
  (Field.decode (← Json.read text)).mapError .mismatch

namespace Config

/-- The configuration in a text. -/
def parse (text : String) : Except Error Config := (ofText text).mapError .config

/-- The configuration in a file that has been read, or the default one if there is no such
file. -/
def ofFile : Except FileError String → Except Error Config
  | .ok text => parse text
  | .error e => if e.isAbsence then .ok default else .error (.file e)

/-- The configuration in a file that has been read, or the default one if that does not
succeed. -/
def ofFileOrDefault (file : Except FileError String) : Config :=
  match ofFile file with
  | .ok c => c
  | .error _ => default

/-- The configuration in the file at a path. -/
def load (fs : FileSystem) (path : Path) : Except Error Config := ofFile (fs.read path)

/-- Writes the configuration to the file at a path. -/
def save (c : Config) (path : Path) : FileAction Unit :=
  FileSystem.write path c.toText.toUTF8

/-- The path of the configuration file, inside the directory where users keep such
files. -/
def filePath : String := "greenland-schema/config.toml"

end Config

end StructuredOutput
