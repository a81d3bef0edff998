import StructuredOutput.Toml.Quoted

/-!
# Writing TOML

Documents of two levels: entries, and behind them tables of entries under their headers. A
value is a text, a truth value or a list of texts. A list of two items or more has a line
for each item.
-/

namespace StructuredOutput.Toml

/-- What can be written behind a key. -/
inductive Leaf where
  | text (value : String)
  | flag (value : Bool)
  | texts (values : List String)

/-- The items of a list, each on a line of its own. -/
def itemLines (values : List String) : List Char :=
  values.flatMap fun v => "\n    ".toList ++ writeString v.toList ++ [',']

def Leaf.write : Leaf → List Char
  | text s => writeString s.toList
  | flag b => (toString b).toList
  | texts [] => "[]".toList
  | texts [s] => '[' :: writeString s.toList ++ [']']
  | texts ss => '[' :: itemLines ss ++ "\n]".toList

/-- A line for each entry. -/
def writeEntries (entries : List (String × Leaf)) : List Char :=
  entries.flatMap fun (key, leaf) => key.toList ++ " = ".toList ++ leaf.write ++ ['\n']

/-- A header on a line of its own. -/
def writeHeader (name : String) : List Char := '[' :: name.toList ++ "]\n".toList

/-- A document: its entries and its tables, with an empty line before each table that is
not the first thing in it. A table without entries is left out. -/
def writeDocument (top : List (String × Leaf))
    (tables : List (String × List (String × Leaf))) : String :=
  let parts := (if top.isEmpty then [] else [writeEntries top])
    ++ (tables.filter (!·.2.isEmpty)).map fun (name, entries) =>
      writeHeader name ++ writeEntries entries
  String.ofList (['\n'].intercalate parts)

end StructuredOutput.Toml
