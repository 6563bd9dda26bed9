import EventEngine.Toml.Value
import EventEngine.Text.Hexadecimal

/-! Numbers, dates and strings of configuration documents. A scanner takes what it
reads off the front of a text. -/
namespace EventEngine.Toml

/-- What was read and what follows; `none` if the text does not start that way. -/
abbrev Scan (α : Type) := List Char → Option (α × List Char)

def skipBlanks (cs : List Char) : List Char := cs.dropWhile fun c => c == ' ' || c == '\t'

def newline? : List Char → Option (List Char)
  | '\n' :: cs => some cs
  | '\r' :: '\n' :: cs => some cs
  | _ => none

/-- Characters that may stand in comments and strings: no control but the tabulator. -/
def isText (c : Char) : Bool := c == '\t' || (32 ≤ c.toNat && c.toNat != 127)

/-! ### Numbers -/

def isBinary (c : Char) : Bool := c == '0' || c == '1'

def isOctal (c : Char) : Bool := '0' ≤ c && c ≤ '7'

def isHexadecimal (c : Char) : Bool := (Text.Hexadecimal.value? c).isSome

/-- More digits, single underscores between them; last first. -/
def moreDigits (isDigit : Char → Bool) (read : List Char) : List Char → Option (List Char × List Char)
  | '_' :: c :: cs => if isDigit c then moreDigits isDigit (c :: read) cs else none
  | c :: cs =>
    if isDigit c then moreDigits isDigit (c :: read) cs
    else if c == '_' then none
    else some (read, c :: cs)
  | [] => some (read, [])

def digits (isDigit : Char → Bool) : Scan (List Char)
  | c :: cs =>
    if isDigit c then (moreDigits isDigit [c] cs).map fun (read, rest) => (read.reverse, rest)
    else none
  | [] => none

def digitsValue (base : Nat) (ds : List Char) : Nat :=
  ds.foldl (fun total c => total * base + (Text.Hexadecimal.value? c).getD 0) 0

/-- Whole numbers stay within a signed 64-bit word. -/
def inRange (n : Int) : Option Int :=
  if Int64.minValue.toInt ≤ n ∧ n ≤ Int64.maxValue.toInt then some n else none

/-- A sign, if there is one; whether it is a minus. -/
def sign : List Char → Bool × List Char
  | '+' :: cs => (false, cs)
  | '-' :: cs => (true, cs)
  | cs => (false, cs)

/-- Decimal digits; only a lone zero starts with a zero. -/
def decimalDigits : Scan (List Char)
  | '0' :: cs => some (['0'], cs)
  | cs => digits Char.isDigit cs

def based (base : Nat) (isDigit : Char → Bool) : Scan Int := fun cs => do
  let (ds, rest) ← digits isDigit cs
  return (← inRange (digitsValue base ds), rest)

def integer : Scan Int
  | '0' :: 'x' :: cs => based 16 isHexadecimal cs
  | '0' :: 'o' :: cs => based 8 isOctal cs
  | '0' :: 'b' :: cs => based 2 isBinary cs
  | cs => do
    let (negative, cs) := sign cs
    let (ds, rest) ← decimalDigits cs
    let n : Int := digitsValue 10 ds
    return (← inRange (if negative then -n else n), rest)

def fraction : Scan (List Char)
  | '.' :: cs => digits Char.isDigit cs
  | _ => none

def exponent : Scan Int
  | c :: cs =>
    if c == 'e' || c == 'E' then do
      let (negative, cs) := sign cs
      let (ds, rest) ← digits Char.isDigit cs
      let n : Int := digitsValue 10 ds
      return (if negative then -n else n, rest)
    else none
  | [] => none

def namedFloat (negative : Bool) : Scan Number.Double
  | 'i' :: 'n' :: 'f' :: cs => some (.infinity negative, cs)
  | 'n' :: 'a' :: 'n' :: cs => some (.nan, cs)
  | _ => none

/-- The double nearest to a decimal. Too large a number is refused, but one below all
doubles is minus infinity. -/
def decimalFloat (negative : Bool) (ds : List Char) (power : Int) : Option Number.Double :=
  match Number.Double.ofDecimal? negative (digitsValue 10 ds) power with
  | some x => some x
  | none => if negative then some (.infinity true) else none

def float : Scan Number.Double := fun cs =>
  let (negative, cs) := sign cs
  (namedFloat negative cs).or do
    let (whole, cs) ← decimalDigits cs
    match fraction cs with
    | some (ds, cs) =>
      let (power, cs) := (exponent cs).getD (0, cs)
      return (← decimalFloat negative (whole ++ ds) (power - ds.length), cs)
    | none =>
      let (power, cs) ← exponent cs
      return (← decimalFloat negative whole power, cs)

/-! ### Dates and times -/

/-- Exactly so many digits, between two bounds. -/
def field (width least greatest : Nat) : Scan Nat := fun cs => do
  let ds := cs.take width
  if ds.length < width || !ds.all Char.isDigit then none
  let n := digitsValue 10 ds
  if least ≤ n && n ≤ greatest then return (n, cs.drop width) else none

def mark (c : Char) : Scan Unit
  | d :: cs => if d == c then some ((), cs) else none
  | [] => none

def daysIn (year month : Nat) : Nat :=
  if month = 2 then if year % 4 = 0 ∧ (year % 100 ≠ 0 ∨ year % 400 = 0) then 29 else 28
  else if month = 4 ∨ month = 6 ∨ month = 9 ∨ month = 11 then 30
  else 31

def date (cs : List Char) : Option (List Char) := do
  let (year, cs) ← field 4 0 9999 cs
  let (_, cs) ← mark '-' cs
  let (month, cs) ← field 2 1 12 cs
  let (_, cs) ← mark '-' cs
  let (_, cs) ← field 2 1 (daysIn year month) cs
  return cs

def time (cs : List Char) : Option (List Char) := do
  let (_, cs) ← field 2 0 23 cs
  let (_, cs) ← mark ':' cs
  let (_, cs) ← field 2 0 59 cs
  let (_, cs) ← mark ':' cs
  let (_, cs) ← field 2 0 60 cs
  match cs with
  | '.' :: cs =>
    let ds := cs.takeWhile Char.isDigit
    if ds.isEmpty then none else return cs.dropWhile Char.isDigit
  | cs => return cs

def offset : List Char → Option (List Char)
  | [] => none
  | c :: cs =>
    if c == 'Z' || c == 'z' then some cs
    else if c == '+' || c == '-' then do
      let (_, cs) ← field 2 0 23 cs
      let (_, cs) ← mark ':' cs
      let (_, cs) ← field 2 0 59 cs
      return cs
    else none

/-- The time behind a date, if there is one. -/
def timeBehindDate : List Char → Option (List Char)
  | [] => none
  | c :: cs =>
    if c == 'T' || c == 't' || c == ' ' then do
      let cs ← time cs
      return (offset cs).getD cs
    else none

def dateTime : Scan String := fun cs => do
  let rest ← match date cs with
    | some rest => some ((timeBehindDate rest).getD rest)
    | none => time cs
  return (String.ofList (cs.take (cs.length - rest.length)), rest)

/-! ### Strings -/

/-- The character of a code given by so many hexadecimal digits. -/
def codePoint (width : Nat) : Scan Char := fun cs => do
  let ds := cs.take width
  if ds.length < width then none
  let n ← Text.Hexadecimal.read? ds
  if n < 0xd800 || (0xe000 ≤ n && n < 0x110000) then return (Char.ofNat n, cs.drop width) else none

def escape : Scan Char
  | 'b' :: cs => some ('\x08', cs)
  | 't' :: cs => some ('\t', cs)
  | 'n' :: cs => some ('\n', cs)
  | 'f' :: cs => some ('\x0c', cs)
  | 'r' :: cs => some ('\r', cs)
  | '"' :: cs => some ('"', cs)
  | '\\' :: cs => some ('\\', cs)
  | 'u' :: cs => codePoint 4 cs
  | 'U' :: cs => codePoint 8 cs
  | _ => none

/-- A string on one line, behind its quote. -/
def basicString : Nat → String → Scan String
  | 0, _, _ => none
  | fuel + 1, out, cs =>
    match cs with
    | '"' :: cs => some (out, cs)
    | '\\' :: cs =>
      match escape cs with
      | some (c, cs) => basicString fuel (out.push c) cs
      | none => none
    | c :: cs => if isText c then basicString fuel (out.push c) cs else none
    | [] => none

/-- A string on one line without escapes, behind its quote. -/
def literalString (cs : List Char) : Option (String × List Char) :=
  let body := cs.takeWhile fun c => c != '\'' && isText c
  match cs.drop body.length with
  | '\'' :: rest => some (String.ofList body, rest)
  | _ => none

/-- Blanks and line ends behind a backslash at the end of a line. -/
def skipLines : Nat → List Char → List Char
  | 0, cs => cs
  | fuel + 1, cs =>
    match cs with
    | ' ' :: rest | '\t' :: rest => skipLines fuel rest
    | cs =>
      match newline? cs with
      | some rest => skipLines fuel rest
      | none => cs

def quoteCount (quote : Char) (cs : List Char) : Nat := (cs.takeWhile (· == quote)).length

/-- A string over several lines, behind its quotes. Up to two quotes may stand inside,
also right before the closing ones. -/
def longString (quote : Char) (escapes : Bool) : Nat → String → Scan String
  | 0, _, _ => none
  | fuel + 1, out, cs =>
    match cs with
    | [] => none
    | c :: rest =>
      if c == quote then
        let n := quoteCount quote cs
        if n < 3 then longString quote escapes fuel (out.push quote) rest
        else
          let inside := min (n - 3) 2
          some (out.pushn quote inside, cs.drop (inside + 3))
      else if c == '\\' && escapes then
        match newline? (skipBlanks rest) with
        | some lines => longString quote escapes fuel out (skipLines lines.length lines)
        | none =>
          match escape rest with
          | some (c, rest) => longString quote escapes fuel (out.push c) rest
          | none => none
      else
        match newline? cs with
        | some rest => longString quote escapes fuel (out.push '\n') rest
        | none => if isText c then longString quote escapes fuel (out.push c) rest else none

/-- A line end right behind the opening quotes does not count. -/
def openLong (cs : List Char) : List Char := (newline? cs).getD cs

def string : Scan String
  | '"' :: '"' :: '"' :: cs => longString '"' true (cs.length + 1) "" (openLong cs)
  | '\'' :: '\'' :: '\'' :: cs => longString '\'' false (cs.length + 1) "" (openLong cs)
  | '"' :: cs => basicString (cs.length + 1) "" cs
  | '\'' :: cs => literalString cs
  | _ => none

end EventEngine.Toml
