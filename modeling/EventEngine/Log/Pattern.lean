import EventEngine.Text.Hexadecimal
import EventEngine.Text.Parts

/-! The written form of what a directive asks of a value: a number, or a regular
expression. No value of this program is ever compared with one, so only the form is
known here; a form that does not hold refuses the filter it stands in. Counted
repetitions and classes named by a letter are not understood. -/
namespace EventEngine.Log.Pattern

def dropIf (c : Char) : List Char → List Char
  | d :: cs => if d = c then cs else d :: cs
  | [] => []

/-- A number in decimal notation, with a fraction and an exponent, or a word for one. -/
def isNumber (cs : List Char) : Bool :=
  let whole := cs.takeWhile Char.isDigit
  let rest := cs.drop whole.length
  let (fraction, rest) := match rest with
    | '.' :: rest => (rest.takeWhile Char.isDigit, rest.dropWhile Char.isDigit)
    | rest => ([], rest)
  let exponent := match rest with
    | [] => true
    | c :: rest =>
      let digits := match rest with
        | '+' :: digits | '-' :: digits => digits
        | digits => digits
      c.toLower == 'e' && !digits.isEmpty && digits.all Char.isDigit
  !(whole.isEmpty && fraction.isEmpty) && exponent ||
    ["inf", "infinity", "nan"].contains (String.ofList (cs.map Char.toLower))

def code? (width : Nat) (cs : List Char) : Option (Char × List Char) := do
  let digits := cs.take width
  if digits.length ≠ width then none
  let n ← Text.Hexadecimal.read? digits
  if n.isValidChar then some (Char.ofNat n, cs.drop width) else none

def escaped? : List Char → Option (Char × List Char)
  | 'x' :: cs => code? 2 cs
  | 'u' :: cs => code? 4 cs
  | 'U' :: cs => code? 8 cs
  | 'a' :: cs => some ('\x07', cs)
  | 'f' :: cs => some ('\x0c', cs)
  | 'n' :: cs => some ('\n', cs)
  | 'r' :: cs => some ('\r', cs)
  | 't' :: cs => some ('\t', cs)
  | 'v' :: cs => some ('\x0b', cs)
  | c :: cs =>
    if c.toNat < 128 && !c.isAlphanum && c != '<' && c != '>' then some (c, cs) else none
  | [] => none

def member? : List Char → Option (Char × List Char)
  | '\\' :: cs => escaped? cs
  | c :: cs => some (c, cs)
  | [] => none

/-- Behind the bracket that opens a class: a caret, and characters that would mean
something else further on. -/
def classStart (cs : List Char) : List Char :=
  match dropIf '^' cs with
  | ']' :: cs => cs
  | cs => cs.dropWhile (· == '-')

/-- What is left behind a class named between colons. -/
def namedClass? : List Char → Option (List Char)
  | ':' :: cs =>
    let cs := dropIf '^' cs
    let name := cs.takeWhile Char.isAlpha
    let names := ["alnum", "alpha", "ascii", "blank", "cntrl", "digit", "graph", "lower", "print",
      "punct", "space", "upper", "word", "xdigit"]
    match cs.drop name.length with
    | ':' :: ']' :: rest => if names.contains (String.ofList name) then some rest else none
    | _ => none
  | _ => none

/-- What is left behind a class; classes may stand in classes. -/
def class? : Nat → Nat → List Char → Option (List Char)
  | 0, _, _ => none
  | fuel + 1, depth, cs =>
    match cs with
    | [] => none
    | ']' :: cs =>
      match depth with
      | 0 => some cs
      | depth + 1 => class? fuel depth cs
    | '[' :: cs =>
      match namedClass? cs with
      | some rest => class? fuel depth rest
      | none => class? fuel (depth + 1) (classStart cs)
    | '&' :: '&' :: cs | '-' :: '-' :: cs | '~' :: '~' :: cs => class? fuel depth cs
    | cs => do
      let (low, rest) ← member? cs
      match rest with
      | '-' :: c :: more =>
        if c == ']' || c == '-' then class? fuel depth rest
        else
          let (high, rest) ← member? (c :: more)
          if low ≤ high then class? fuel depth rest else none
      | rest => class? fuel depth rest

def groupName? (cs : List Char) : Option (List Char) :=
  let name := cs.takeWhile (· != '>')
  match name, cs.drop name.length with
  | c :: name, _ :: rest =>
    if (c.isAlpha || c == '_') &&
        name.all fun c => c.isAlphanum || c == '_' || c == '.' || c == '[' || c == ']'
    then some rest else none
  | _, _ => none

/-- Behind the parenthesis that opens a group; flags alone open none. -/
def opening? : List Char → Option (Bool × List Char)
  | '?' :: 'P' :: '<' :: cs => (groupName? cs).map (true, ·)
  | '?' :: '<' :: cs => (groupName? cs).map (true, ·)
  | '?' :: cs =>
    let flags := cs.takeWhile fun c => ['m', 's', 'u', 'x', 'U', 'R', '-'].contains c
    if flags.eraseDups.length ≠ flags.length || flags.getLast? == some '-' then none
    else
      match cs.drop flags.length with
      | ':' :: rest => some (true, rest)
      | ')' :: rest => if flags.isEmpty then none else some (false, rest)
      | _ => none
  | cs => some (true, cs)

/-- Whether an expression holds, so many open groups in; an operator that repeats must
stand behind something. -/
def isExpression : Nat → Nat → Bool → List Char → Bool
  | 0, _, _, _ => false
  | _ + 1, depth, _, [] => depth == 0
  | fuel + 1, depth, operand, c :: cs =>
    match c with
    | '|' => isExpression fuel depth false cs
    | '*' | '+' | '?' => operand && isExpression fuel depth true cs
    | '\x7b' => false
    | '(' =>
      match opening? cs with
      | some (true, rest) => isExpression fuel (depth + 1) false rest
      | some (false, rest) => isExpression fuel depth false rest
      | none => false
    | ')' =>
      match depth with
      | 0 => false
      | depth + 1 => isExpression fuel depth true cs
    | '[' =>
      let inner := classStart cs
      match class? (inner.length + 1) 0 inner with
      | some rest => isExpression fuel depth true rest
      | none => false
    | '\\' =>
      match cs with
      | 'A' :: rest | 'z' :: rest => isExpression fuel depth true rest
      | cs =>
        match escaped? cs with
        | some (_, rest) => isExpression fuel depth true rest
        | none => false
    | _ => isExpression fuel depth true cs

/-- Whether a text is the form of something to compare values with. -/
def isPattern (cs : List Char) : Bool :=
  isNumber (dropIf '+' cs) || isExpression (cs.length + 1) 0 false cs

end EventEngine.Log.Pattern
