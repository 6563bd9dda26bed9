import EventEngine.Text.Quoted

/-! Texts and terminals. Some characters do not show but command a terminal: `visible`
says what is left of a text when its commands are taken out, `disarm` writes the
characters that begin them as escapes. -/
namespace EventEngine.Text.Terminal

inductive State
  | ground
  | escape
  /-- An escape character and marks between it and the character that ends it. -/
  | marked
  /-- A control sequence: parameters up to a letter or sign. -/
  | sequence
  /-- What stands in front of a device control string. -/
  | deviceHeader
  | string
  /-- A control string of the operating system, which a bell may end. -/
  | systemString
  deriving DecidableEq, Repr

/-- The state, and whether a blank within a command has let the text behind it show. -/
structure Reader where
  state : State := .ground
  interrupted : Bool := false
  deriving DecidableEq, Repr

/-- Controls that are blanks show even within a command. -/
def isShownControl (c : Char) : Bool :=
  c == '\t' || c == '\n' || c == '\x0c' || c == '\r'

/-- Whether the encoded character has the byte 9C behind its first one, which terminates
a control string. -/
def terminates (c : Char) : Bool :=
  let n := c.toNat
  n % 64 == 28 || 0x800 ≤ n && n / 64 % 64 == 28 || 0x10000 ≤ n && n / 4096 % 64 == 28

/-- What a character with a picture, or a space, begins or ends. -/
def State.next : State → Char → State
  | .ground, _ => .ground
  | .escape, c =>
    if c < '0' then .marked
    else
      match c with
      | '[' => .sequence
      | ']' => .systemString
      | 'P' => .deviceHeader
      | 'X' | '^' | '_' => .string
      | _ => .ground
  | .marked, c => if c < '0' then .marked else .ground
  | .sequence, c => if c < '@' then .sequence else .ground
  | .deviceHeader, c => if c < '@' then .deviceHeader else .string
  | .string, _ => .string
  | .systemString, _ => .systemString

/-- Whether controls are carried out while the state lasts. -/
def State.heedsControls : State → Bool
  | .ground | .escape | .marked | .sequence => true
  | .deviceHeader | .string | .systemString => false

/-- The reader behind a character, and whether the character shows. -/
def Reader.step (r : Reader) (c : Char) : Reader × Bool :=
  if c == '\x1b' then ({ state := .escape }, false)
  else if c == '\x18' || c == '\x1a' then ({}, false)
  else if 0x80 ≤ c.toNat then
    if r.interrupted || r.state == .ground then ({}, true)
    else if r.state == .string && terminates c then ({}, false)
    else (r, false)
  else if c < ' ' || c == '\x7f' then
    if isShownControl c && r.state.heedsControls then
      ({ r with interrupted := r.state != .ground }, true)
    else if c == '\x07' && r.state == .systemString then ({}, false)
    else ({ r with interrupted := false }, false)
  else if r.interrupted || r.state == .ground then (r, true)
  else ({ state := r.state.next c }, false)

def Reader.shown (r : Reader) : List Char → List Char
  | [] => []
  | c :: cs =>
    let (r, shows) := r.step c
    if shows then c :: r.shown cs else r.shown cs

/-- What a text shows: commands to the terminal, and controls that are no blanks, are
left out. -/
def visible (s : String) : String := String.ofList (({} : Reader).shown s.toList)

def disarmed (c : Char) : String :=
  let n := c.toNat
  if c == '\x1b' || c == '\x07' || c == '\x08' || c == '\x0c' || c == '\x7f' then
    "\\x" ++ String.ofList (Hexadecimal.padded 2 n)
  else if 0x80 ≤ n && n ≤ 0x9f then "\\u\x7b" ++ hexDigits n ++ "\x7d"
  else c.toString

def disarm (s : String) : String := s.foldl (fun out c => out ++ disarmed c) ""

end EventEngine.Text.Terminal
