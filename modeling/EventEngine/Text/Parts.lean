/-! Texts cut into parts: between separators, or into lines. -/
namespace EventEngine.Text

/-- The parts between separators; without one the whole text is the only part. -/
def split (separator : Char) : List Char → List (List Char)
  | [] => [[]]
  | c :: cs =>
    if c = separator then [] :: split separator cs
    else
      match split separator cs with
      | part :: rest => (c :: part) :: rest
      | [] => [[c]]

/-- The lines of a text. A line feed ends a line, and a carriage return in front of it
belongs to the end. Behind the last line feed there is a line only if there is text. -/
def lineParts : List Char → List (List Char)
  | [] => []
  | '\n' :: cs => [] :: lineParts cs
  | '\r' :: '\n' :: cs => [] :: lineParts cs
  | c :: cs =>
    match lineParts cs with
    | line :: rest => (c :: line) :: rest
    | [] => [[c]]

def lines (s : String) : List String := (lineParts s.toList).map String.ofList

/-- The text up to the first line end. -/
def firstLine (s : String) : String := (lines s).headD ""

end EventEngine.Text
