import EventEngine.Text.Parts

/-! The part of a file system that settings are looked for in: files and directories by
their place, and where a path leads from the working directory. -/
namespace EventEngine.Config

inductive FileEntry
  | file (bytes : List UInt8)
  | directory
  deriving DecidableEq, Repr

abbrev Place := List String

structure FileTree where
  entries : List (Place × FileEntry) := []
  working : Place := []
  deriving DecidableEq, Repr

inductive Location
  | found (place : Place) (entry : FileEntry)
  /-- To a name that is free in a directory that exists. -/
  | vacant (place : Place)
  | nowhere
  deriving DecidableEq, Repr

namespace FileTree

def lookup (t : FileTree) (place : Place) : Option FileEntry :=
  if place.isEmpty then some .directory else (t.entries.find? (·.1 == place)).map (·.2)

def put (place : Place) (entry : FileEntry) (t : FileTree) : FileTree :=
  { t with entries := (place, entry) :: t.entries.filter (·.1 != place) }

/-- The most bytes of a path, and of a name in it. -/
def pathLimit : Nat := 4095
def nameLimit : Nat := 255

def isName (part : List Char) : Bool :=
  (String.ofList part).utf8ByteSize ≤ nameLimit && !part.contains '\x00'

/-- Goes from a place along the parts of a path. Each must start in a directory: so an
empty part or a dot, which do not move, ask for one at the end of a path. -/
def follow (t : FileTree) (place : Place) : List (List Char) → Location
  | [] =>
    match t.lookup place with
    | some entry => .found place entry
    | none => .nowhere
  | part :: rest =>
    match t.lookup place with
    | some .directory =>
      if part.isEmpty || part == ['.'] then t.follow place rest
      else if part == ['.', '.'] then t.follow place.dropLast rest
      else if isName part then
        let next := place ++ [String.ofList part]
        if rest.isEmpty && (t.lookup next).isNone then .vacant next else t.follow next rest
      else .nowhere
    | _ => .nowhere

/-- Where a path leads; one that starts with a slash starts at the root. -/
def locate (path : String) (t : FileTree) : Location :=
  if path.isEmpty || pathLimit < path.utf8ByteSize then .nowhere
  else t.follow (if path.startsWith "/" then [] else t.working) (Text.split '/' path.toList)

/-- The place of a path if everything on the way is there. -/
def placeOf (path : String) (t : FileTree) : Place :=
  (Text.split '/' path.toList).foldl (fun place part =>
    if part.isEmpty || part == ['.'] then place
    else if part == ['.', '.'] then place.dropLast
    else place ++ [String.ofList part]) (if path.startsWith "/" then [] else t.working)

def makeParents (place : Place) (t : FileTree) : FileTree :=
  (List.range place.length).foldl (fun t length =>
    let parent := place.take length
    if (t.lookup parent).isNone then t.put parent .directory else t) t

def plant (path : String) (entry : FileEntry) (t : FileTree) : FileTree :=
  let place := t.placeOf path
  (t.makeParents place).put place entry

def names (t : FileTree) : List String :=
  let here := t.entries.filterMap fun (place, _) =>
    if place.dropLast == t.working && !place.isEmpty then place.getLast? else none
  here.mergeSort fun a b => !decide (b < a)

/-- A tree with the customary directories, the device that is always empty, and an empty
working directory. -/
def customary : FileTree :=
  let directories := ["bin", "dev", "etc", "home", "lib", "opt", "proc", "root", "run", "srv",
    "sys", "tmp", "usr", "var"]
  { entries := directories.map (fun name => ([name], .directory)) ++
      [(["dev", "null"], .file []), (["tmp", "engine"], .directory)]
    working := ["tmp", "engine"] }

end FileTree
end EventEngine.Config
