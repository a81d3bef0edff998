import StructuredOutput.Program

/-!
# The program

Reads what a run needs, and prints what it leaves behind.
-/

open StructuredOutput

/-- Whether the system reports the given number; it may come negated. -/
def reports (reported number : UInt32) : Bool := reported == number || reported == -number

/-- The number for something that is no directory. -/
def notDirectoryCode : UInt32 := 20

/-- The number for a name that is too long. -/
def nameTooLongCode : UInt32 := 36

/-- The cause of a failed file operation. A name with a NUL is refused as an argument
without reaching the system. -/
def fileErrorOf : IO.Error → FileError
  | .noFileOrDirectory .. | .noSuchThing .. => .notFound
  | .permissionDenied .. => .permissionDenied
  | .inappropriateType _ code _ =>
    if reports code notDirectoryCode then .notDirectory else .isDirectory
  | .invalidArgument _ code _ =>
    if reports code nameTooLongCode then .nameTooLong else .nameHasNul
  | e => .other (toString e)

/-- The text of a file that has been opened by `action`. -/
def readBytes (action : IO ByteArray) : IO (Except FileError String) := do
  try
    return textOfBytes (← action)
  catch e =>
    return .error (fileErrorOf e)

/-- The text that a source holds. -/
def readSource : Source → IO (Except FileError String)
  | .stdin => readBytes do (← IO.getStdin).readBinToEnd
  | .file path => readBytes (IO.FS.readBinFile path)

/-- The directory where the user keeps configurations: the one that is set, if its path is
absolute, or else the one below the home directory. -/
def configurationDirectory : IO (Option String) := do
  let home := (← IO.getEnv "HOME").map (· ++ "/.config")
  match ← IO.getEnv "XDG_CONFIG_HOME" with
  | some directory => return if "/".isPrefixOf directory then some directory else home
  | none => return home

/-- The configuration file of the user. -/
def readConfiguration : IO (Except FileError String) := do
  match ← configurationDirectory with
  | some directory => readBytes (IO.FS.readBinFile (directory ++ "/" ++ Config.filePath))
  | none => return .error .notFound

def main (words : List String) : IO UInt32 := do
  let outcome ← match Command.ofWords words with
    | .error e => pure (Outcome.failure e)
    | .ok command =>
      let configFile ← readConfiguration
      let content ← match command.source? with
        | some source => readSource source
        | none => pure (.error .notFound)
      pure (command.run configFile fun _ => content)
  IO.print outcome.output
  IO.eprint outcome.errors
  return outcome.code
