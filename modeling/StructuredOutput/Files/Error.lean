/-!
# File errors

Why operations on files fail. The words are those of the system.
-/

namespace StructuredOutput

/-- Why a file operation fails. -/
inductive FileError where
  | notFound
  | permissionDenied
  | alreadyExists
  | notDirectory
  | isDirectory
  | nameTooLong
  | nameHasNul
  | notUtf8
  /-- Any other cause, as the system reports it. -/
  | other (message : String)
  deriving DecidableEq

namespace FileError

def message : FileError → String
  | notFound => "No such file or directory (os error 2)"
  | permissionDenied => "Permission denied (os error 13)"
  | alreadyExists => "File exists (os error 17)"
  | notDirectory => "Not a directory (os error 20)"
  | isDirectory => "Is a directory (os error 21)"
  | nameTooLong => "File name too long (os error 36)"
  | nameHasNul => "file name contained an unexpected NUL byte"
  | notUtf8 => "stream did not contain valid UTF-8"
  | other message => message

/-- Whether the cause is that nothing stands, or can stand, at a path. -/
def isAbsence : FileError → Bool
  | notFound | notDirectory | nameTooLong | nameHasNul => true
  | _ => false

end FileError

/-- The text that bytes encode. -/
def textOfBytes (bytes : ByteArray) : Except FileError String :=
  match String.fromUTF8? bytes with
  | some text => .ok text
  | none => .error .notUtf8

end StructuredOutput
