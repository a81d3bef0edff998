import StructuredOutput.Entries
import StructuredOutput.Files.Path

/-!
# File systems

A file system as a value, and the operations that a program performs in it. What is in it
has an address: the names that lead there from the root. An operation is a `FileAction`: it
may fail, and what it has changed before it fails stays changed. Paths are walked step by
step from the root or from the working directory, and the first step that cannot be made
decides the error. The main statements say what inserting a node does to look-ups by
address.
-/

namespace StructuredOutput

/-- A file, or a directory with what is in it. -/
inductive Node where
  | file (content : ByteArray)
  | directory (entries : List (String × Node))

/-- The names that lead to a node, outermost first. -/
abbrev Address := List String

namespace Node

/-- What stands under a name; nothing stands under a file. -/
def child? (name : String) : Node → Option Node
  | file _ => none
  | directory entries => entries.lookup name

/-- What stands at an address. -/
def get? (node : Node) : Address → Option Node
  | [] => some node
  | name :: rest => (node.child? name).bind (·.get? rest)

/-- Puts `new` at an address, in place of what stands there. Directories that are missing
on the way are made; a file on the way stays as it is. -/
def insert (new : Node) : Address → Node → Node
  | [], _ => new
  | _ :: _, file content => file content
  | name :: rest, directory entries =>
    let inner := (entries.lookup name).getD (directory [])
    directory (Entries.insert name (insert new rest inner) entries)

@[simp] theorem get?_nil (node : Node) : node.get? [] = some node := rfl

@[simp] theorem get?_cons (node : Node) (name : String) (rest : Address) :
    node.get? (name :: rest) = (node.child? name).bind (·.get? rest) := rfl

theorem get?_append (node : Node) (outer inner : Address) :
    node.get? (outer ++ inner) = (node.get? outer).bind (·.get? inner) := by
  induction outer generalizing node with
  | nil => rfl
  | cons name rest ih =>
    rw [List.cons_append, get?_cons, get?_cons]
    cases node.child? name with
    | none => rfl
    | some n => exact ih n

theorem child?_insert_self (new : Node) (name : String) (rest : Address)
    (entries : Entries Node) :
    child? name (insert new (name :: rest) (directory entries)) =
      some (insert new rest ((entries.lookup name).getD (directory []))) :=
  Entries.lookup_insert_self ..

theorem child?_insert_of_ne {name other : String} (h : other ≠ name) (new node : Node)
    (rest : Address) :
    child? other (insert new (name :: rest) node) = child? other node := by
  cases node with
  | file content => rfl
  | directory entries => exact Entries.lookup_insert_of_ne h ..

/-- What has been put into a directory stands there. -/
theorem get?_insert_self (new : Node) {node : Node} {outer : Address}
    {entries : Entries Node} (h : node.get? outer = some (directory entries))
    (name : String) :
    (insert new (outer ++ [name]) node).get? (outer ++ [name]) = some new := by
  induction outer generalizing node with
  | nil =>
    obtain rfl := Option.some.inj h
    rw [List.nil_append, get?_cons, child?_insert_self]
    rfl
  | cons first rest ih =>
    cases node with
    | file content => exact absurd h (by simp [child?])
    | directory siblings =>
      rw [List.cons_append, get?_cons, child?_insert_self, Option.bind_some]
      apply ih
      cases hl : siblings.lookup first with
      | none => simp [child?, hl] at h
      | some inner => simpa [child?, hl] using h

end Node

/-- A file system: all that is below the root, and the address of the working directory. -/
structure FileSystem where
  root : Node
  workingDirectory : Address

/-- An operation in a file system. -/
abbrev FileAction := ExceptT FileError (StateM FileSystem)

namespace FileSystem

/-! ## Look-up -/

/-- The longest name of a file, in bytes. -/
def nameLimit : Nat := 255

/-- What stands under a name in a directory; names that are too long are refused. -/
def child? (directory : Node) (name : String) : Except FileError (Option Node) :=
  if nameLimit < name.utf8ByteSize then .error .nameTooLong
  else .ok (directory.child? name)

/-- The directory at an address. -/
def directoryAt (fs : FileSystem) (address : Address) : Except FileError Node :=
  match fs.root.get? address with
  | none => .error .notFound
  | some (.file _) => .error .notDirectory
  | some directory => .ok directory

/-- Where a step leads, which can be made from a directory only. From the root, up leads to
the root. -/
def step (fs : FileSystem) (address : Address) (s : Step) : Except FileError Address := do
  let directory ← fs.directoryAt address
  match s with
  | .stay => .ok address
  | .up => .ok address.dropLast
  | .down name =>
    match ← child? directory name with
    | none => .error .notFound
    | some _ => .ok (address ++ [name])

/-- Where the parts of a path lead, from the root or from the working directory. -/
def follow (fs : FileSystem) (absolute : Bool) (parts : List String) :
    Except FileError Address :=
  (parts.map Step.ofPart).foldlM fs.step (if absolute then [] else fs.workingDirectory)

/-- What stands at a path. -/
def locate (fs : FileSystem) (path : Path) : Except FileError Node := do
  path.check
  match fs.root.get? (← fs.follow path.absolute path.parts) with
  | none => .error .notFound
  | some node => .ok node

/-- Whether a directory stands at a path. -/
def isDirectory (fs : FileSystem) (path : Path) : Bool :=
  match fs.locate path with
  | .ok (.directory _) => true
  | _ => false

/-- The text of the file at a path. -/
def read (fs : FileSystem) (path : Path) : Except FileError String := do
  match ← fs.locate path with
  | .file content => textOfBytes content
  | .directory _ => .error .isDirectory

/-! ## Changes -/

/-- The file system with a node put at an address. -/
def insert (fs : FileSystem) (address : Address) (node : Node) : FileSystem :=
  { fs with root := .insert node address fs.root }

/-- The file system with a new directory at a path. -/
def withDirectory (fs : FileSystem) (path : Path) : Except FileError FileSystem := do
  path.check
  match path.target? with
  | none => .error .alreadyExists
  | some target =>
    let address ← fs.follow path.absolute target.before
    let directory ← fs.directoryAt address
    match Step.ofPart target.last with
    | .down name =>
      match ← child? directory name with
      | none => .ok (fs.insert (address ++ [name]) (.directory []))
      | some _ => .error .alreadyExists
    | _ => .error .alreadyExists

/-- The file system with a file of the given content at a path, new or in place of
another. -/
def withFile (fs : FileSystem) (path : Path) (content : ByteArray) :
    Except FileError FileSystem := do
  path.check
  match path.target? with
  | none => .error .isDirectory
  | some target =>
    let address ← fs.follow path.absolute target.before
    let directory ← fs.directoryAt address
    match Step.ofPart target.last with
    | .down name =>
      if target.slashed then .error .isDirectory
      else match ← child? directory name with
        | some (.directory _) => .error .isDirectory
        | _ => .ok (fs.insert (address ++ [name]) (.file content))
    | _ => .error .isDirectory

/-- The action that changes the file system, if it can be done. -/
def attempt (change : FileSystem → Except FileError FileSystem) : FileAction Unit := do
  match change (← get) with
  | .ok fs => set fs
  | .error e => throw e

/-- Makes the first of the given directories, each of which stands in the next one. Those
that are missing are made from the outside in; what is a directory already is left
alone. -/
def makeDirectories : List Path → FileAction Unit
  | [] => pure ()
  | path :: outer =>
    if path.isEmpty then pure ()
    else do
      let ensure (otherwise : FileError → FileAction Unit) : FileAction Unit :=
        tryCatch (attempt (·.withDirectory path)) otherwise
      let settle (e : FileError) : FileAction Unit := do
        if (← get).isDirectory path then pure () else throw e
      ensure fun e =>
        if e = .notFound then do
          makeDirectories outer
          ensure settle
        else settle e

/-- Makes a directory at a path, and the directories above it. -/
def makeDirectory (path : Path) : FileAction Unit := makeDirectories (path :: path.above)

/-- Writes a file at a path, and makes the directories above it. -/
def write (path : Path) (content : ByteArray) : FileAction Unit := do
  makeDirectories path.above
  attempt (·.withFile path content)

end FileSystem

end StructuredOutput
