import EventEngine.Json.Value
import EventEngine.Number.Stepwise
import EventEngine.Text.Hexadecimal

/-! Reading documents. Each step consumes a character or closes a bracket, so a
budget of twice the length of the text is never used up. -/
namespace EventEngine.Json

open Number (Double Significand twoTo)

def isBlank (c : Char) : Bool := c == ' ' || c == '\n' || c == '\r' || c == '\t'

def skipBlanks (cs : List Char) : List Char := cs.dropWhile isBlank

def digitsOf (cs : List Char) : List Nat := cs.map fun c => c.toNat - '0'.toNat

def digitsValue (cs : List Char) : Nat :=
  (digitsOf cs).foldl (fun total d => total * 10 + d) 0

def readFraction : List Char → Option (List Char × List Char)
  | '.' :: cs =>
    let digits := cs.takeWhile Char.isDigit
    if digits.isEmpty then none else some (digits, cs.dropWhile Char.isDigit)
  | cs => some ([], cs)

def readExponent : List Char → Option (Option Int × List Char)
  | c :: cs =>
    if c == 'e' || c == 'E' then
      let (negative, cs) := match cs with
        | '-' :: cs => (true, cs)
        | '+' :: cs => (false, cs)
        | cs => (false, cs)
      let digits := cs.takeWhile Char.isDigit
      if digits.isEmpty then none
      else
        let value : Int := digitsValue digits
        some (some (if negative then -value else value), cs.dropWhile Char.isDigit)
    else some (none, c :: cs)
  | [] => some (none, [])

/-- A whole number that fits a word, if it is one. A negative zero and what lies below all
words with a sign are doubles. -/
def wholeNumber? (negative : Bool) (digits : Nat) : Option Json :=
  if !negative && Significand.fits digits then some (int digits)
  else if negative && digits ≠ 0 && digits ≤ twoTo 63 then some (int (-digits))
  else none

/-- A number. Without point and exponent it is whole where it fits a word. -/
def readNumber (cs : List Char) : Option (Json × List Char) := do
  let (negative, cs) := match cs with
    | '-' :: cs => (true, cs)
    | cs => (false, cs)
  let whole := cs.takeWhile Char.isDigit
  if whole.isEmpty || (whole.head? == some '0' && whole.length > 1) then none
  let (fraction, cs) ← readFraction (cs.dropWhile Char.isDigit)
  let (exponent, cs) ← readExponent cs
  let number := if fraction.isEmpty && exponent.isNone then wholeNumber? negative (digitsValue whole)
    else none
  match number with
  | some number => some (number, cs)
  | none =>
    let s := ((⟨0, 0⟩ : Significand).appendWhole (digitsOf whole)).appendFraction (digitsOf fraction)
    let x ← Double.ofSignificand? negative ⟨s.digits, s.exponent + exponent.getD 0⟩
    some (float x, cs)

def readUnit (cs : List Char) : Option (Nat × List Char) := do
  if (cs.take 4).length < 4 then none
  let value ← Text.Hexadecimal.read? (cs.take 4)
  some (value, cs.drop 4)

/-- A character written as one unit or as a pair of surrogates. -/
def readEscapedUnit (cs : List Char) : Option (Char × List Char) := do
  let (unit, cs) ← readUnit cs
  if 0xd800 ≤ unit && unit < 0xdc00 then
    match cs with
    | '\\' :: 'u' :: cs =>
      let (low, cs) ← readUnit cs
      if 0xdc00 ≤ low && low < 0xe000 then
        some (Char.ofNat (0x10000 + (unit - 0xd800) * 0x400 + (low - 0xdc00)), cs)
      else none
    | _ => none
  else if 0xdc00 ≤ unit && unit < 0xe000 then none
  else some (Char.ofNat unit, cs)

def readString : Nat → String → List Char → Option (String × List Char)
  | 0, _, _ => none
  | fuel + 1, out, cs =>
    match cs with
    | [] => none
    | '"' :: cs => some (out, cs)
    | '\\' :: 'u' :: cs =>
      match readEscapedUnit cs with
      | some (c, cs) => readString fuel (out.push c) cs
      | none => none
    | '\\' :: c :: cs =>
      let value := match c with
        | '"' | '\\' | '/' => some c
        | 'b' => some '\x08'
        | 'f' => some '\x0c'
        | 'n' => some '\n'
        | 'r' => some '\r'
        | 't' => some '\t'
        | _ => none
      match value with
      | some c => readString fuel (out.push c) cs
      | none => none
    | c :: cs => if c.toNat < 32 then none else readString fuel (out.push c) cs

mutual

def readValue : Nat → List Char → Option (Json × List Char)
  | 0, _ => none
  | fuel + 1, cs =>
    match skipBlanks cs with
    | 'n' :: 'u' :: 'l' :: 'l' :: cs => some (null, cs)
    | 't' :: 'r' :: 'u' :: 'e' :: cs => some (bool true, cs)
    | 'f' :: 'a' :: 'l' :: 's' :: 'e' :: cs => some (bool false, cs)
    | '"' :: cs => (readString (fuel + 1) "" cs).map fun (s, cs) => (string s, cs)
    | '[' :: cs =>
      match skipBlanks cs with
      | ']' :: cs => some (array [], cs)
      | cs => readItems fuel [] cs
    | '\x7b' :: cs =>
      match skipBlanks cs with
      | '\x7d' :: cs => some (object [], cs)
      | cs => readMembers fuel [] cs
    | cs => readNumber cs

/-- The items of an array up to its closing bracket, last first. -/
def readItems : Nat → List Json → List Char → Option (Json × List Char)
  | 0, _, _ => none
  | fuel + 1, items, cs =>
    match readValue fuel cs with
    | none => none
    | some (item, cs) =>
      match skipBlanks cs with
      | ',' :: cs => readItems fuel (item :: items) cs
      | ']' :: cs => some (array (item :: items).reverse, cs)
      | _ => none

/-- The members of an object up to its closing bracket, last first. -/
def readMembers : Nat → List (String × Json) → List Char → Option (Json × List Char)
  | 0, _, _ => none
  | fuel + 1, members, cs =>
    match skipBlanks cs with
    | '"' :: cs =>
      match readString (fuel + 1) "" cs with
      | none => none
      | some (name, cs) =>
        match skipBlanks cs with
        | ':' :: cs =>
          match readValue fuel cs with
          | none => none
          | some (value, cs) =>
            match skipBlanks cs with
            | ',' :: cs => readMembers fuel ((name, value) :: members) cs
            | '\x7d' :: cs => some (ofMembers ((name, value) :: members).reverse, cs)
            | _ => none
        | _ => none
    | _ => none

end

/-- The document written by a text, blanks around it allowed. -/
def read? (text : String) : Option Json :=
  match readValue (2 * text.length + 2) text.toList with
  | some (value, rest) => if (skipBlanks rest).isEmpty then some value else none
  | none => none

end EventEngine.Json
