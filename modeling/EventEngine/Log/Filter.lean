import EventEngine.Log.Pattern
import EventEngine.Log.Record
import EventEngine.Text.Alphanumeric
import EventEngine.Text.Blank

/-! Which records are written. A filter is a list of directives, each with a level and
perhaps the beginning of a target, a span and a named value; of those that fit a record
the most specific one decides. Without a fitting one nothing is written. -/
namespace EventEngine.Log

structure FieldFilter where
  name : String
  pattern : Option String := none
  deriving DecidableEq, Repr

/-- How grave a record must be, as a verbosity from 0, nothing, to 5, everything, and
which records that is about. -/
structure Directive where
  verbosity : Nat
  target : Option String := none
  span : Option String := none
  field : Option FieldFilter := none
  deriving DecidableEq, Repr

def verbosity? (word : String) : Option Nat :=
  let digits := Pattern.dropIf '+' word.toList
  if !digits.isEmpty && digits.all Char.isDigit then
    let n := digits.foldl (fun total c => total * 10 + (c.toNat - '0'.toNat)) 0
    if n ≤ 5 then some n else none
  else
    match word.toLower with
    | "" | "error" => some 1
    | "off" => some 0
    | "warn" => some 2
    | "info" => some 3
    | "debug" => some 4
    | "trace" => some 5
    | _ => none

def fullVerbosity : Nat := 5

/-- A value's name, and behind an equals sign what it is compared with. -/
def FieldFilter.read? (cs : List Char) : Option FieldFilter :=
  match Text.split '=' cs with
  | [] | [[]] => none
  | [name] => some { name := String.ofList name }
  | name :: pattern :: _ =>
    if Pattern.isPattern pattern then
      some { name := String.ofList name, pattern := some (String.ofList pattern) }
    else none

namespace Directive

/-- Which part of a directive is being read, and where it began. -/
inductive Part
  | start
  | name (first : Nat)
  | span (first : Nat)
  | field (first : Nat)
  | afterField
  | afterSpan
  | level (first : Nat)
  deriving DecidableEq, Repr

/-- A text without its first bytes; none if that would split a character. -/
def dropBytes? : Nat → List Char → Option (List Char)
  | 0, cs => some cs
  | _, [] => none
  | n, c :: cs => if c.utf8Size ≤ n then dropBytes? (n - c.utf8Size) cs else none

/-- The first bytes of a text; none if that would split a character. -/
def takeBytes? : Nat → List Char → Option (List Char)
  | 0, _ => some []
  | _, [] => none
  | n, c :: cs =>
    if c.utf8Size ≤ n then (takeBytes? (n - c.utf8Size) cs).map (c :: ·) else none

def cut? (whole : List Char) (first last : Nat) : Option (List Char) := do
  takeBytes? (last - first) (← dropBytes? first whole)

/-- The level behind an equals sign; none means everything. -/
def level? (cs : List Char) : Option Nat :=
  if cs.isEmpty then some fullVerbosity else verbosity? (String.ofList cs)

/-- What a character at a position means for a directive of which some parts are read. -/
def step? (whole : List Char) (position : Nat) (c : Char) (part : Part) (d : Directive) :
    Option (Part × Directive) :=
  match part with
  | .start =>
    if c == '[' then some (.span (position + 1), d)
    else if c == '-' || c == ':' || c == '_' || Text.isAlphanumeric c then
      some (.name position, d)
    else none
  | .name first =>
    if c == '=' || c == '[' then do
      let d := { d with target := some (String.ofList (← cut? whole first position)) }
      some (if c == '=' then .level (position + 1) else .span (position + 1), d)
    else some (part, d)
  | .span first =>
    if c == ']' then do
      some (.afterSpan, { d with span := some (String.ofList (← cut? whole first position)) })
    else if c == '\x7b' then do
      let span ← cut? whole first position
      some (.field (position + 1),
        { d with span := if span.isEmpty then none else some (String.ofList span) })
    else some (part, d)
  | .field first =>
    if c == '\x7d' then do
      some (.afterField, { d with field := some (← FieldFilter.read? (← cut? whole first position)) })
    else some (part, d)
  | .afterField => if c == ']' then some (.afterSpan, d) else none
  | .afterSpan => if c == '=' then some (.level (position + 1), d) else none
  | .level _ => some (part, d)

/-- A directive whose text is at its end. A name alone may be a level, else it is a target
of which everything is written. -/
def finish? (whole : List Char) (part : Part) (d : Directive) : Option Directive :=
  match part with
  | .name first => do
    let word := String.ofList (← dropBytes? first whole)
    match verbosity? word with
    | some verbosity => some { d with verbosity }
    | none => some { d with target := some word }
  | .level first => do some { d with verbosity := ← level? (← dropBytes? first whole) }
  | .afterSpan => some d
  | .start | .span _ | .field _ | .afterField => none

def readFrom? (whole : List Char) (position : Nat) (part : Part) (d : Directive) :
    List Char → Option Directive
  | [] => finish? whole part d
  | c :: cs => do
    let (part, d) ← step? whole position c part d
    readFrom? whole (position + c.utf8Size) part d cs

/-- A directive from its text: a level, or a target, in brackets a span and in braces a
value, and a level behind an equals sign, each of which may be left out. Where the parts
are is found out on the text without the blanks around it, but they are cut at these
places from the text with its blanks. -/
def read? (whole : List Char) : Option Directive :=
  readFrom? whole 0 .start { verbosity := fullVerbosity } (Text.trim whole)

/-- Whether a directive is about the inside of spans, of which this program has none, or
about what a value is. -/
def isDynamic (d : Directive) : Bool :=
  d.span.isSome || (d.field.bind (·.pattern)).isSome

/-- Whether a directive is about a record: the target begins as told and the value is
there. -/
def fits (r : Record) (d : Directive) : Bool :=
  !d.isDynamic && (d.target.getD "").toList.isPrefixOf r.target.toList &&
    d.field.all fun field => r.names.contains field.name

def weight (d : Directive) : Nat := (d.target.map fun t => t.utf8ByteSize + 1).getD 0

/-- Whether a directive is more specific than another that fits the same record: first a
longer target counts, then a value, of two values the later name. -/
def outranks (a b : Directive) : Bool :=
  if a.weight ≠ b.weight then b.weight < a.weight
  else
    match a.field, b.field with
    | some x, some y => decide (y.name < x.name)
    | some _, none => true
    | none, _ => false

end Directive

structure Filter where
  directives : List Directive
  deriving DecidableEq, Repr

namespace Filter

def ofVerbosity (verbosity : Nat) : Filter := ⟨[{ verbosity }]⟩

/-- A filter from directives between commas; without any only errors are written. -/
def read? (text : String) : Option Filter := do
  let parts := (Text.split ',' text.toList).filter (!·.isEmpty)
  let directives ← parts.mapM Directive.read?
  return if directives.isEmpty then ofVerbosity 1 else ⟨directives.reverse⟩

/-- The directive that decides about a record: none that fits is more specific, and of
equally specific ones it is the last. -/
def deciding? (f : Filter) (r : Record) : Option Directive :=
  (f.directives.filter (·.fits r)).foldl (fun best d =>
    match best with
    | some b => some (if d.outranks b then d else b)
    | none => some d) none

def admits (f : Filter) (r : Record) : Bool :=
  match f.deciding? r with
  | some d => r.level.verbosity ≤ d.verbosity
  | none => false

end Filter
end EventEngine.Log
