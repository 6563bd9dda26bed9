import EventEngine.Toml.Value

/-! Tables while a document is being read. A header makes a table and, on the way to it,
implicit ones that a later header may still make; a dotted key makes dotted ones that
only dotted keys may extend. No table is made twice and no key is given twice. -/
namespace EventEngine.Toml

inductive Node
  | value (v : Value)
  | table (implicit dotted : Bool) (entries : List (String × Node))
  /-- An array of tables, last one first. -/
  | tables (latest : List (String × Node)) (earlier : List (List (String × Node)))
  deriving Inhabited

/-- Entries under keys, in the order of their making. -/
abbrev Entries := List (String × Node)

def setNode (key : String) (node : Node) : Entries → Entries
  | [] => [(key, node)]
  | (other, held) :: rest =>
    if other = key then (key, node) :: rest else (other, held) :: setNode key node rest

def node? (key : String) (entries : Entries) : Option Node :=
  (entries.find? (·.1 == key)).map (·.2)

/-- A change at the end of a path that a header walks. Tables on the way are made
implicitly; of an array of tables the latest is entered. -/
def alongHeader (f : Entries → Option Entries) : List String → Entries → Option Entries
  | [], entries => f entries
  | key :: path, entries =>
    match (node? key entries).getD (.table true false []) with
    | .value _ => none
    | .table implicit dotted inner => do
      let inner ← alongHeader f path inner
      return setNode key (.table implicit dotted inner) entries
    | .tables latest earlier => do
      let latest ← alongHeader f path latest
      return setNode key (.tables latest earlier) entries

/-- Makes the table of a header, or makes an implicit one explicit. -/
def openTable (key : String) (entries : Entries) : Option Entries :=
  match node? key entries with
  | none => some (setNode key (.table false false []) entries)
  | some (.table true false inner) => some (setNode key (.table false false inner) entries)
  | some _ => none

def openTables (key : String) (entries : Entries) : Option Entries :=
  match node? key entries with
  | none => some (setNode key (.tables [] []) entries)
  | some (.tables latest earlier) => some (setNode key (.tables [] (latest :: earlier)) entries)
  | some _ => none

/-- Gives a key its value in a table that a dotted key reached, or at its own table. -/
def putValue (key : String) (v : Value) (entries : Entries) : Option Entries :=
  match node? key entries with
  | none => some (entries ++ [(key, .value v)])
  | some _ => none

/-- Gives a dotted key its value. What lies on the path must have been made by dotted
keys or not at all, and the last table of the path by dotted keys. -/
def putAlong (path : List String) (key : String) (v : Value) (entries : Entries) :
    Option Entries :=
  match path with
  | [] => putValue key v entries
  | step :: path =>
    match (node? step entries).getD (.table true true []) with
    | .value _ => none
    | .table implicit dotted inner =>
      if !implicit || (path.isEmpty && !dotted) then none
      else do
        let inner ← putAlong path key v inner
        return setNode step (.table implicit dotted inner) entries
    | .tables latest earlier =>
      if path.isEmpty then none
      else do
        let latest ← putAlong path key v latest
        return setNode step (.tables latest earlier) entries

mutual

def Node.finish : Node → Value
  | .value v => v
  | .table _ _ entries => .table (finishEntries entries)
  | .tables latest earlier =>
    .array (.table (finishEntries latest) :: finishAll earlier).reverse

def finishEntries : List (String × Node) → List (String × Value)
  | [] => []
  | (key, node) :: rest => (key, node.finish) :: finishEntries rest

def finishAll : List (List (String × Node)) → List Value
  | [] => []
  | entries :: rest => .table (finishEntries entries) :: finishAll rest

end

end EventEngine.Toml
