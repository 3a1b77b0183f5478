/-!
# Parts of a text
-/

namespace StagedRecords.Text

/-- The parts of a text between the separators. -/
def split (separator : Char) : List Char → List (List Char)
  | [] => [[]]
  | c :: cs =>
    if c = separator then [] :: split separator cs
    else match split separator cs with
      | p :: ps => (c :: p) :: ps
      | [] => [[c]]

/-- The text without a carriage return at its end. -/
def dropReturn (cs : List Char) : List Char :=
  if cs.getLast? = some '\r' then cs.dropLast else cs

/-- The lines of a text, each of which a line feed ends, with or without a carriage return before
it. The last line is ended by what follows the text. -/
def lines (s : String) : List String :=
  (split '\n' s.toList).map fun line => String.ofList (dropReturn line)

end StagedRecords.Text
