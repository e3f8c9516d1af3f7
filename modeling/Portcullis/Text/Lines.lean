/-! Lines of a text.

A line ends at a line feed; a carriage return directly before the line feed
belongs to the line end. What follows the last line feed is a line of its own
unless it is empty. -/
namespace Portcullis.Text

/-- The lines of a text, without their ends. -/
def lines : List Char → List (List Char)
  | [] => []
  | '\r' :: '\n' :: rest => [] :: lines rest
  | c :: rest =>
    if c = '\n' then [] :: lines rest
    else match lines rest with
      | [] => [[c]]
      | first :: others => (c :: first) :: others

@[simp] theorem lines_nil : lines [] = [] := rfl

@[simp] theorem lines_newline (rest : List Char) : lines ('\n' :: rest) = [] :: lines rest := by
  simp [lines]

/-- Texts joined by line feeds, one after each. -/
def unlines : List (List Char) → List Char
  | [] => []
  | line :: others => line ++ '\n' :: unlines others

end Portcullis.Text
