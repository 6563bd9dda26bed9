import EventEngine.Json.Value
import EventEngine.Text.Hexadecimal

/-! The written form of a document, without blanks. -/
namespace EventEngine.Json

/-- A character inside a string: quotes, backslashes and controls are escaped. -/
def escaped (c : Char) : String :=
  match c with
  | '"' => "\\\""
  | '\\' => "\\\\"
  | '\n' => "\\n"
  | '\r' => "\\r"
  | '\t' => "\\t"
  | c => if c.toNat < 32 then "\\u" ++ String.ofList (Text.Hexadecimal.padded 4 c.toNat)
    else c.toString

def quoted (s : String) : String :=
  s.foldl (fun out c => out ++ escaped c) "\"" ++ "\""

mutual

/-- The text so far, with a value behind it. -/
def write (out : String) : Json → String
  | null => out ++ "null"
  | bool b => out ++ if b then "true" else "false"
  | int n => out ++ toString n
  | float x => out ++ if x.value matches .finite .. then x.documentText else "null"
  | string s => out ++ quoted s
  | array items => writeItems (out ++ "[") items ++ "]"
  | object members => writeMembers (out ++ "\x7b") members ++ "\x7d"

def writeItems (out : String) : List Json → String
  | [] => out
  | [item] => write out item
  | item :: rest => writeItems (write out item ++ ",") rest

def writeMembers (out : String) : List (String × Json) → String
  | [] => out
  | [(name, value)] => write (out ++ quoted name ++ ":") value
  | (name, value) :: rest => writeMembers (write (out ++ quoted name ++ ":") value ++ ",") rest

end

def text (value : Json) : String := write "" value

end EventEngine.Json
