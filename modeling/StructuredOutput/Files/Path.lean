import StructuredOutput.Files.Error

/-!
# Paths

Paths as text with slashes, and as the steps that they ask for. A path keeps all that
stands between its slashes, since the system counts its bytes; empty parts and `.` lead
nowhere, and `..` leads up.
-/

namespace StructuredOutput

/-- A path, by what stands between its slashes. -/
structure Path where
  /-- Whether it starts at the root, with a slash. -/
  absolute : Bool
  parts : List String
  deriving DecidableEq

/-- Where one part of a path leads. -/
inductive Step where
  | stay
  | up
  | down (name : String)
  deriving DecidableEq

def Step.ofPart (part : String) : Step :=
  if part = "" ∨ part = "." then stay else if part = ".." then up else down part

namespace Path

/-- The path that a text spells. -/
def ofText (text : String) : Path :=
  match text.splitOn "/" with
  | [""] => ⟨false, []⟩
  | "" :: parts => ⟨true, parts⟩
  | parts => ⟨false, parts⟩

/-- Whether it is the path of the empty text. -/
def isEmpty (p : Path) : Bool := !p.absolute && p.parts.isEmpty

/-- The bytes of a path whose parts are separated by slashes. -/
def partsSize : List String → Nat
  | [] => 0
  | [part] => part.utf8ByteSize
  | part :: parts => part.utf8ByteSize + 1 + partsSize parts

/-- The bytes of the text. -/
def size (p : Path) : Nat := (if p.absolute then 1 else 0) + partsSize p.parts

/-- The longest path that the system takes, in bytes. -/
def sizeLimit : Nat := 4095

/-- Refuses a path that the system does not look at. -/
def check (p : Path) : Except FileError Unit :=
  if p.parts.any (·.toList.contains '\x00') then .error .nameHasNul
  else if p.isEmpty then .error .notFound
  else if sizeLimit < p.size then .error .nameTooLong
  else .ok ()

/-! ## Targets -/

/-- What a path is about to make or to overwrite: its last part, slashes behind it
aside. -/
structure Target where
  /-- The parts before the last one. -/
  before : List String
  last : String
  /-- Whether a slash follows. -/
  slashed : Bool

/-- The target of a path; the root and the empty path have none. -/
def target? (p : Path) : Option Target :=
  match p.parts.reverse.dropWhile String.isEmpty with
  | [] => none
  | last :: before => some ⟨before.reverse, last, p.parts.getLast? == some ""⟩

/-! ## Directories above a path -/

/-- The parts of the paths above one, outermost first. Parts that lead nowhere belong to
what follows them, but for `.` at the beginning. The parts up to the last path found, and
the parts since then, are given in reverse. -/
def partsAbove (reached since : List String) : List String → List (List String)
  | [] => []
  | part :: rest =>
    if Step.ofPart part = .stay then partsAbove reached (part :: since) rest
    else reached.reverse :: partsAbove (part :: since ++ reached) [] rest

/-- The paths above one, innermost first: each is the path before without its last part.
The last is the root, or the empty path. -/
def above (p : Path) : List Path :=
  let found := match p.absolute, p.parts with
    | false, "." :: rest => [] :: partsAbove ["."] [] rest
    | _, parts => partsAbove [] [] parts
  (found.map (⟨p.absolute, ·⟩)).reverse

end Path

end StructuredOutput
