/-!
# Lines

Line ends as they are read from files, and lines as they are joined into texts.
-/

namespace SexprAsm.Text

/-- Reads each of the three line ends, CR LF, CR and LF, as LF. -/
def unifyNewlines : List Char → List Char
  | [] => []
  | '\r' :: '\n' :: cs => '\n' :: unifyNewlines cs
  | c :: cs => (if c = '\r' then '\n' else c) :: unifyNewlines cs

/-- The lines with a line end between each two of them. -/
def joinLines : List String → String
  | [] => ""
  | [line] => line
  | line :: lines => line ++ "\n" ++ joinLines lines

def countNewlines (s : String) : Nat :=
  s.toList.count '\n'

end SexprAsm.Text
