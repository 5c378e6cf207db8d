import Docwright.Command.Arguments
import Docwright.Crash
import Docwright.Files.Tree
import Docwright.Report.Export
import Docwright.Report.Markdown

/-!
# Documents

The files that a run leaves in its output directory: an index and one page per routine, or one
export of them all. What is to be written is planned first, as a list of paths with texts; writing
follows the list and stops when the file system refuses or a text cannot be written.
-/

namespace Docwright

namespace Command

/-! ## Names of pages -/

/-- Names made different: one that has come `n` times before gets the suffix `n + 1`. -/
def distinctFrom (before : List String) : List String → List String
  | [] => []
  | name :: rest =>
    let count := before.count name
    let own := if count = 0 then name else name ++ "_" ++ toString (count + 1)
    own :: distinctFrom (name :: before) rest

/-- The names of the pages of documented routines. -/
def pageNames (pairs : List Documented) : List String :=
  distinctFrom [] (pairs.map (·.1.name))

/-! ## Planning -/

/-- A file to be written. -/
structure Document where
  /-- its path -/
  path : Files.Path
  /-- its text -/
  text : LooseText
  deriving DecidableEq, Repr

/-- The document with the index. -/
def indexDocument (directory : Files.Path) (pairs : List Documented) : Document :=
  ⟨directory.extend ["README.md"], Markdown.index pairs⟩

/-- The documents with one routine each. -/
def pageDocuments (directory : Files.Path) (pairs : List Documented) : List Document :=
  List.zipWith (fun (name : String) pair => ⟨directory.extend [name ++ ".md"], Markdown.page pair⟩)
    (pageNames pairs) pairs

/-- The indent of the export of a run. -/
def exportIndent : Nat := 2

/-- The text of the export of a run. -/
def runExport (pairs : List Documented) : String :=
  (Documented.listToJson pairs).render (some exportIndent)

/-- The documents of a run, the index first. -/
def documents (directory : Files.Path) (pairs : List Documented) : Format → List Document
  | .json => [⟨directory.extend ["functions.json"], runExport pairs⟩]
  | .markdown => indexDocument directory pairs :: pageDocuments directory pairs

/-- The text that is printed when there is no output directory. -/
def printedText (pairs : List Documented) : Format → LooseText
  | .json => runExport pairs ++ "\n"
  | .markdown => Markdown.batch pairs ++ "\n"

/-! ## Writing -/

/-- The tree with a document written, and what went wrong. A document whose text has no bytes is
left empty. -/
def write (t : Files.Tree) (document : Document) : Files.Tree × Option Crash :=
  let (bytes, crash) :=
    match Text.Utf8.encode? document.text with
    | .ok bytes => (bytes, none)
    | .error error => ([], some (.unencodable error))
  match t.write document.path bytes with
  | .error refusal => (t, some (.system ⟨refusal, document.path.text⟩))
  | .ok written => (written, crash)

/-- The tree with documents written one after the other, and what went wrong. -/
def writeAll (t : Files.Tree) : List Document → Files.Tree × Option Crash
  | [] => (t, none)
  | document :: rest =>
    match write t document with
    | (written, some crash) => (written, some crash)
    | (written, none) => writeAll written rest

/-- The tree with the output directory and the documents in it, and what went wrong. -/
def writeDocuments (t : Files.Tree) (directory : Files.Path) (pairs : List Documented)
    (format : Format) : Files.Tree × Option Crash :=
  match directory.fault? with
  | some crash => (t, some crash)
  | none =>
    match t.makeDirectories directory with
    | (made, some error) => (made, some (.system error))
    | (made, none) => writeAll made (documents directory pairs format)

end Command

end Docwright
