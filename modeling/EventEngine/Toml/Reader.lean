import EventEngine.Toml.Scalar
import EventEngine.Toml.Table

/-! Reading configuration documents: keys, nested values, and line by line the tables.
Values may be nested up to a fixed depth. -/
namespace EventEngine.Toml

/-! ### Keys -/

def isBareKey (c : Char) : Bool := c.isAlphanum || c == '_' || c == '-'

def keyPart : Scan String
  | '"' :: cs => basicString (cs.length + 1) "" cs
  | '\'' :: cs => literalString cs
  | cs =>
    let name := cs.takeWhile isBareKey
    if name.isEmpty then none else some (String.ofList name, cs.dropWhile isBareKey)

/-- The parts of a key, joined by points, last first. -/
def keyParts : Nat → List String → Scan (List String)
  | 0, _, _ => none
  | fuel + 1, parts, cs => do
    let (part, cs) ← keyPart (skipBlanks cs)
    match skipBlanks cs with
    | '.' :: cs => keyParts fuel (part :: parts) cs
    | cs => some (part :: parts, cs)

/-- Values and keys are not nested deeper than this. -/
def nestingLimit : Nat := 80

/-- A key: the path before its last part, and that part. -/
def key (cs : List Char) : Option ((List String × String) × List Char) :=
  match keyParts nestingLimit [] cs with
  | some (last :: path, rest) =>
    if nestingLimit ≤ path.length + 1 then none else some ((path.reverse, last), rest)
  | _ => none

/-! ### Values -/

def skipComment : List Char → List Char
  | '#' :: cs => cs.dropWhile isText
  | cs => cs

/-- Blanks, comments and line ends between the items of an array. -/
def skipBetween : Nat → List Char → List Char
  | 0, cs => cs
  | fuel + 1, cs =>
    match skipComment (skipBlanks cs) with
    | cs =>
      match newline? cs with
      | some rest => skipBetween fuel rest
      | none => cs

def scalar : Scan Value := fun cs =>
  match cs with
  | 't' :: 'r' :: 'u' :: 'e' :: cs => some (.bool true, cs)
  | 'f' :: 'a' :: 'l' :: 's' :: 'e' :: cs => some (.bool false, cs)
  | c :: _ =>
    if c == '"' || c == '\'' then (string cs).map fun (s, cs) => (.string s, cs)
    else
      ((dateTime cs).map fun (text, cs) => (.dateTime text, cs)).or <|
        ((float cs).map fun (x, cs) => (.float x, cs)).or <|
          (integer cs).map fun (n, cs) => (.int n, cs)
  | [] => none

mutual

/-- A value, `depth` counting how much deeper values may be nested. -/
def value : Nat → Nat → Scan Value
  | 0, _, _ => none
  | fuel + 1, depth, cs =>
    match cs, depth with
    | '[' :: cs, depth + 1 =>
      if depth = 0 then none
      else
        match skipBetween fuel cs with
        | ']' :: cs => some (.array [], cs)
        | cs => items fuel depth [] cs
    | '\x7b' :: cs, depth + 1 =>
      if depth = 0 then none
      else
        match skipBlanks cs with
        | '\x7d' :: cs => some (.table [], cs)
        | cs => pairs fuel depth [] cs
    | cs, _ => scalar cs

/-- The items of an array up to its closing bracket, last first. A comma may follow the
last one. -/
def items : Nat → Nat → List Value → Scan Value
  | 0, _, _, _ => none
  | fuel + 1, depth, read, cs =>
    match value fuel depth cs with
    | none => none
    | some (item, cs) =>
      match skipBetween fuel cs with
      | ']' :: cs => some (.array (item :: read).reverse, cs)
      | ',' :: cs =>
        match skipBetween fuel cs with
        | ']' :: cs => some (.array (item :: read).reverse, cs)
        | cs => items fuel depth (item :: read) cs
      | _ => none

def pairs : Nat → Nat → Entries → Scan Value
  | 0, _, _, _ => none
  | fuel + 1, depth, read, cs =>
    match key cs with
    | some ((path, last), '=' :: cs) =>
      match value fuel depth (skipBlanks cs) with
      | none => none
      | some (v, cs) =>
        match putAlong path last v read with
        | none => none
        | some read =>
          match skipBlanks cs with
          | '\x7d' :: cs => some (.table (finishEntries read), cs)
          | ',' :: cs => pairs fuel depth read cs
          | _ => none
    | _ => none

end

/-! ### Documents -/

/-- Where the keys of the current line go: into the latest table of a header. -/
structure Document where
  root : Entries
  current : List String

def Document.put (path : List String) (last : String) (v : Value) (d : Document) :
    Option Document := do
  return { d with root := ← alongHeader (putAlong path last v) d.current d.root }

/-- A header; `many` for the next table of an array. -/
def Document.header (many : Bool) (path : List String) (last : String) (d : Document) :
    Option Document := do
  let root ← alongHeader (if many then openTables last else openTable last) path d.root
  return { root, current := path ++ [last] }

def endOfLine (cs : List Char) : Option (List Char) :=
  match skipComment (skipBlanks cs) with
  | [] => some []
  | cs => newline? cs

def line (budget : Nat) (cs : List Char) (d : Document) : Option (Document × List Char) :=
  match cs with
  | '[' :: '[' :: cs => do
    match ← key cs with
    | ((path, last), ']' :: ']' :: cs) => return (← d.header true path last, ← endOfLine cs)
    | _ => none
  | '[' :: cs => do
    match ← key cs with
    | ((path, last), ']' :: cs) => return (← d.header false path last, ← endOfLine cs)
    | _ => none
  | cs => do
    match ← key cs with
    | ((path, last), '=' :: cs) =>
      let (v, cs) ← value budget nestingLimit (skipBlanks cs)
      return (← d.put path last v, ← endOfLine cs)
    | _ => none

def lines : Nat → List Char → Document → Option Document
  | 0, _, d => some d
  | fuel + 1, cs, d =>
    match skipBlanks cs with
    | [] => some d
    | '#' :: cs =>
      match endOfLine ('#' :: cs) with
      | some rest => lines fuel rest d
      | none => none
    | cs =>
      match newline? cs with
      | some rest => lines fuel rest d
      | none =>
        match line fuel cs d with
        | some (d, rest) => lines fuel rest d
        | none => none

/-- The table a document writes; a mark of the byte order in front is skipped. -/
def read? (text : String) : Option Value :=
  let cs := match text.toList with
    | '\ufeff' :: cs => cs
    | cs => cs
  (lines (cs.length + 2) cs ⟨[], []⟩).map fun d => .table (finishEntries d.root)

end EventEngine.Toml
