import StructuredOutput.Command

/-!
# Runs of the program

What one run of the program does, as a function of its words and of what it can read.
-/

namespace StructuredOutput

/-- What a run leaves behind: its exit code and what it prints. -/
structure Outcome where
  code : UInt32
  output : String
  errors : String
  deriving DecidableEq

namespace Outcome

/-- A run that answers. -/
def success (text : String) : Outcome := ⟨0, text ++ "\n", ""⟩

/-- An error as the user sees it. -/
def report (e : Error) : String := "Error: " ++ e.message

/-- A run that ends with an error. -/
def failure (e : Error) : Outcome := ⟨1, "", report e ++ "\n"⟩

/-- The end of a run. -/
def ofResult : Except Error String → Outcome
  | .ok text => success text
  | .error e => failure e

end Outcome

/-- The run of a command, given the configuration file and what reading a source gives. A
configuration file that cannot be used counts as missing. -/
def Command.run (configFile : Except FileError String)
    (read : Source → Except FileError String) (command : Command) : Outcome :=
  .ofResult (command.output (Config.ofFileOrDefault configFile) read)

/-- The run of the program with the given words. -/
def runProgram (configFile : Except FileError String)
    (read : Source → Except FileError String) (words : List String) : Outcome :=
  match Command.ofWords words with
  | .ok command => command.run configFile read
  | .error e => .failure e

end StructuredOutput
