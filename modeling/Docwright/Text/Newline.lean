/-!
# Line ends

A line of a file may end with a newline, a carriage return, or the two of them. A text that was
read from a file has newlines only.
-/

namespace Docwright.Text

/-- The text with every line end made one newline. -/
def unifyNewlines : List Char → List Char
  | [] => []
  | '\r' :: '\n' :: s => '\n' :: unifyNewlines s
  | '\r' :: s => '\n' :: unifyNewlines s
  | c :: s => c :: unifyNewlines s

end Docwright.Text
