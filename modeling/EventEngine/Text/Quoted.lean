import EventEngine.Text.Printable
import EventEngine.Text.Hexadecimal

/-! Quoted text: a string between double quotes in which quotes, backslashes and
characters without a picture are escaped. -/
namespace EventEngine.Text

/-- The digits of a number without leading zeros. -/
def hexDigits (value : Nat) : String :=
  let digits := (Hexadecimal.padded 8 value).dropWhile (· == '0')
  if digits.isEmpty then "0" else String.ofList digits

/-- A character inside the quotes. -/
def escape (c : Char) : String :=
  match c with
  | '\x00' => "\\0"
  | '\t' => "\\t"
  | '\r' => "\\r"
  | '\n' => "\\n"
  | '"' => "\\\""
  | '\\' => "\\\\"
  | c => if c.toNat < 127 && 32 ≤ c.toNat || isPrintable c then c.toString
    else "\\u\x7b" ++ hexDigits c.toNat ++ "\x7d"

/-- The text between quotes. -/
def quoted (s : String) : String :=
  s.foldl (fun out c => out ++ escape c) "\"" ++ "\""

end EventEngine.Text
