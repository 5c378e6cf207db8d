import Docwright.Text.Search

/-!
# The summary of a docstring

The summary is the first paragraph, put on one line. It ends at a blank line or at a line that
opens a section, whichever comes first.
-/

namespace Docwright

namespace Docstring

/-- The section headings that end a summary even without a blank line before them. -/
def summaryHeadings : List String :=
  ["Args", "Arguments", "Parameters", "Returns", "Example", "Examples", "Raises", "Yields", "Note",
   "Notes"]

/-- Does the line open a section? -/
def isHeading (line : List Char) : Bool :=
  summaryHeadings.any fun name => (name.toList ++ [':']).isPrefixOf line

/-- The lines of the summary, trimmed. -/
def summaryLines (docstring : List Char) : List (List Char) :=
  ((Text.lines (Text.trim docstring)).map Text.trim).dropWhile List.isEmpty
    |>.takeWhile fun line => !line.isEmpty && !isHeading line

/-- The summary of a docstring. -/
def summary (docstring : List Char) : List Char :=
  Text.join [' '] (summaryLines docstring)

end Docstring

end Docwright
