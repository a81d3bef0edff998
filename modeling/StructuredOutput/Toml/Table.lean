import StructuredOutput.Toml.Value

/-!
# Building tables

A document is a list of statements: headers, each of which opens a table, and assignments
to keys of the table that is open. Here the statements are put together to one table. A key
is assigned once, a table is opened by one header, and a table that dotted keys have made
is extended by dotted keys of the same table alone.
-/

namespace StructuredOutput.Toml

/-- An assignment: the tables on the way, the key and its value. -/
structure Assignment where
  path : List String
  key : String
  value : Value

/-- A header: the tables on the way, and the name of the table that it opens. -/
structure Header where
  path : List String
  key : String
  /-- Whether the table becomes the next element of an array of tables. -/
  element : Bool

/-- A statement of a document. -/
inductive Statement where
  | header (header : Header)
  | assignment (assignment : Assignment)

/-- What has made a table. -/
inductive Origin where
  /-- A header of its own. -/
  | header
  /-- A header below it. -/
  | below
  /-- A dotted key. -/
  | dotted
  deriving DecidableEq

/-- A table under construction. -/
inductive Node where
  | value (value : Value)
  | table (origin : Origin) (entries : List (String × Node))
  /-- An array of tables: the earlier elements, and the last, which headers may still
  extend. -/
  | tables (earlier : List (List (String × Node))) (last : List (String × Node))

namespace Node

/-- Changes the entries at the end of a path. Tables that are missing on the way are made,
and of an array of tables the last element is entered. A dotted path does not enter a table
that has a header. -/
def alter (dotted : Bool) (change : Origin → Entries Node → Option (Entries Node)) :
    Origin → List String → Entries Node → Option (Entries Node)
  | origin, [], entries => change origin entries
  | _, name :: path, entries =>
    match entries.lookup name with
    | none => do
      let origin := if dotted then .dotted else .below
      let made ← alter dotted change origin path []
      some (entries ++ [(name, table origin made)])
    | some (table origin inner) =>
      if dotted && origin = .header then none
      else do
        let inner ← alter dotted change origin path inner
        some (entries.insert name (table origin inner))
    | some (tables earlier last) => do
      let last ← alter dotted change .header path last
      some (entries.insert name (tables earlier last))
    | some (value _) => none

/-- Adds an assignment to the entries of an open table. -/
def assign (entries : Entries Node) (a : Assignment) : Option (Entries Node) :=
  alter true (fun origin inner =>
    if (origin = .dotted) = a.path.isEmpty then none
    else if (inner.lookup a.key).isSome then none
    else some (inner ++ [(a.key, value a.value)])) .header a.path entries

/-- Adds assignments one after the other. -/
def assignAll (entries : Entries Node) (assignments : List Assignment) :
    Option (Entries Node) :=
  assignments.foldlM assign entries

/-- Opens the table of a header and adds its assignments. A table that only headers below
it have made is taken from its place and put at the end. -/
def openTable (root : Entries Node) (h : Header) (assignments : List Assignment) :
    Option (Entries Node) :=
  alter false (fun _ entries =>
    match entries.lookup h.key, h.element with
    | none, false => do
      let body ← assignAll [] assignments
      some (entries ++ [(h.key, table .header body)])
    | some (table .below inner), false => do
      let body ← assignAll inner assignments
      some (entries.filter (·.1 != h.key) ++ [(h.key, table .header body)])
    | none, true => do
      let body ← assignAll [] assignments
      some (entries ++ [(h.key, tables [] body)])
    | some (tables earlier last), true => do
      let body ← assignAll [] assignments
      some (entries.insert h.key (tables (earlier ++ [last]) body))
    | _, _ => none) .header h.path root

mutual

/-- The value that a node has become. -/
def toValue : Node → Value
  | value v => v
  | table _ entries => .table (entriesToValue entries)
  | tables earlier last =>
    .tables (elementsToValue earlier ++ [.table (entriesToValue last)])
  termination_by structural node => node

def entriesToValue : List (String × Node) → Entries Value
  | [] => []
  | (name, node) :: rest => (name, toValue node) :: entriesToValue rest
  termination_by structural entries => entries

def elementsToValue : List (List (String × Node)) → List Value
  | [] => []
  | entries :: rest => .table (entriesToValue entries) :: elementsToValue rest
  termination_by structural elements => elements

end

end Node

/-- The table that the assignments of an inline table make. -/
def inlineTable (assignments : List Assignment) : Option (Entries Value) :=
  Node.entriesToValue <$> Node.assignAll [] assignments

/-- The assignments before the first header, and every header with the assignments behind
it. -/
def sections : List Statement → List Assignment × List (Header × List Assignment)
  | [] => ([], [])
  | .assignment a :: rest => (a :: (sections rest).1, (sections rest).2)
  | .header h :: rest => ([], (h, (sections rest).1) :: (sections rest).2)

/-- The table that the statements of a document make. -/
def document (statements : List Statement) : Option (Entries Value) := do
  let root ← Node.assignAll [] (sections statements).1
  let root ←
    (sections statements).2.foldlM (fun root s => Node.openTable root s.1 s.2) root
  some (Node.entriesToValue root)

end StructuredOutput.Toml
