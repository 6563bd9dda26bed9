/-! Hexadecimal numerals of a fixed width, in lower case. -/
namespace EventEngine.Text.Hexadecimal

/-- The numeral of a value below sixteen. -/
def digit (value : Nat) : Char :=
  Char.ofNat (if value < 10 then '0'.toNat + value else 'a'.toNat + (value - 10))

/-- The last `width` numerals of a number, leading zeros kept. -/
def padded : Nat → Nat → List Char
  | 0, _ => []
  | width + 1, value => padded width (value / 16) ++ [digit (value % 16)]

/-- The value of a numeral, in either case. -/
def value? (c : Char) : Option Nat :=
  if '0' ≤ c ∧ c ≤ '9' then some (c.toNat - '0'.toNat)
  else if 'a' ≤ c ∧ c ≤ 'f' then some (c.toNat - 'a'.toNat + 10)
  else if 'A' ≤ c ∧ c ≤ 'F' then some (c.toNat - 'A'.toNat + 10)
  else none

/-- The number a row of numerals stands for; the empty row stands for nothing. -/
def read? (cs : List Char) : Option Nat :=
  if cs.isEmpty then none
  else cs.foldlM (fun total c => (value? c).map (total * 16 + ·)) 0

/-- Four bytes after their base mark. -/
def word (w : UInt32) : String :=
  "0x" ++ String.ofList (padded 8 w.toNat)

end EventEngine.Text.Hexadecimal
