import Docwright.Files.Tree
import Docwright.Source.Extraction
import Docwright.Text.Newline
import Docwright.Workers

/-!
# Batches of source files

Files and directories are expanded to a list of source files, and every one of them is read and
its routines are extracted. A file that cannot be read is put on record and does not stop the
others.
-/

namespace Docwright

namespace Files

/-! ## Expanding directories -/

/-- Is it the name of a source file? -/
def isSourceName (name : Name) : Bool :=
  (Text.Utf8.encode ".py").isSuffixOf name

/-- Is it the way to a source file? -/
def isSourceWay (way : List Name) : Bool :=
  way.getLast?.any isSourceName

/-- The names of a way as they are shown. -/
def wayText (way : List Name) : List LooseText :=
  way.map .ofBytes

/-- Something that a listing of source files looks at. -/
structure Visit where
  /-- the way to it from the directory that is listed -/
  way : List Name
  /-- is it a directory, to be listed in turn? -/
  isDirectory : Bool
  deriving DecidableEq, Repr

/-- What a listing of the source files below a place looks at: the directories, and whatever has
the name of a source file. -/
def Tree.visitsBelow (t : Tree) (place : Place) : List Visit :=
  t.entries.filterMap fun (other, _) =>
    let way := other.drop place.length
    let isDirectory := decide (t.find? other = some .directory)
    if place.isPrefixOf other && t.shows place way && (isDirectory || isSourceWay way) then
      some ⟨way, isDirectory⟩
    else none

/-- A listing looks at what is deeper later, and in one directory at the names of source files
first. -/
def Visit.before (v w : Visit) : Bool :=
  v.way.length < w.way.length ||
    v.way.length = w.way.length && (isSourceWay v.way || !isSourceWay w.way)

/-- How deep directories may stand in each other below the one that is listed. -/
def maxNesting : Nat := 988

/-- What stops the listing of a directory at something it looks at: there are too many directories
around it, its path is too long, or it has the name of a source file and cannot be asked whether it
is one, because its directory cannot be passed through. -/
def Tree.obstacle? (t : Tree) (p : Path) (place : Place) (v : Visit) : Option Crash :=
  let path := p.extend (wayText v.way)
  if v.isDirectory && maxNesting < v.way.length then some .deepDirectories
  else if Tree.isTooLong path then some (.system ⟨.nameTooLong, path.text⟩)
  else if isSourceWay v.way && !t.allows (place ++ v.way.dropLast) .pass then
    some (.system ⟨.denied, path.text⟩)
  else none

/-- The source files below a directory, in the order of their names. Directories that cannot be
listed are left out. -/
def Tree.sourcesBelow (t : Tree) (p : Path) : Except Crash (List Path) :=
  match t.locate p with
  | .error _ => .ok []
  | .ok place =>
    match ((t.visitsBelow place).mergeSort Visit.before).findSome? (t.obstacle? p place) with
    | some crash => .error crash
    | none =>
      let ways := ((t.filesBelow place).filter isSourceWay).map wayText
      .ok ((ways.mergeSort waysInOrder).map p.extend)

/-- A directory is expanded to its source files; anything else stands for itself, and so does a
path that no file system takes. -/
def Tree.expand (t : Tree) (p : Path) : Except Crash (List Path) :=
  if p.fault?.isSome then .ok [p]
  else
    match t.isDirectory p with
    | .error error => .error (.system error)
    | .ok true => t.sourcesBelow p
    | .ok false => .ok [p]

/-- The source files that some paths stand for, in the order of the paths. -/
def Tree.collect (t : Tree) : List Path → Except Crash (List Path)
  | [] => .ok []
  | p :: rest =>
    match t.expand p with
    | .error crash => .error crash
    | .ok found =>
      match t.collect rest with
      | .error crash => .error crash
      | .ok more => .ok (found ++ more)

/-! ## Reading one file -/

/-- Why a source file cannot be read. -/
inductive Trouble where
  /-- the file system refused -/
  | refused (refusal : Refusal)
  /-- the bytes are no text -/
  | undecodable (error : Text.Utf8.DecodeError)
  deriving DecidableEq, Repr

/-- A source file that cannot be read. -/
structure Unreadable where
  /-- the text of its path -/
  path : LooseText
  /-- why it cannot be read -/
  trouble : Trouble
  deriving DecidableEq, Repr

/-- The wording of a failure to read. -/
def Unreadable.message (u : Unreadable) : LooseText :=
  let cause : String :=
    match u.trouble with
    | .refused refusal => SystemError.message ⟨refusal, u.path⟩
    | .undecodable error => error.message
  "Failed to read " ++ u.path ++ ": " ++ cause

/-- The text of a file, its line ends made newlines. -/
def Tree.readText (t : Tree) (p : Path) : Except Trouble String :=
  match t.bytes p with
  | .error refusal => .error (.refused refusal)
  | .ok bytes =>
    match Text.Utf8.decode bytes with
    | .error error => .error (.undecodable error)
    | .ok text => .ok (String.ofList (Text.unifyNewlines text))

/-- The routines of a file, or why it cannot be read. A path that no file system takes is a
crash. -/
def Tree.extract (t : Tree) (base : Option Path) (p : Path) :
    Except Crash (Except Unreadable (List Routine)) :=
  match p.fault? with
  | some crash => .error crash
  | none =>
    match t.readText p with
    | .error trouble => .ok (.error ⟨p.text, trouble⟩)
    | .ok source => .ok (.ok (Source.extract source (p.label base)))

/-! ## Reading a batch -/

/-- What came of a batch. -/
structure Batch where
  /-- the routines of the files that could be read -/
  routines : List Routine := []
  /-- the files that could be read, with the number of their routines -/
  files : Association LooseText Nat := []
  /-- the files that could not be read -/
  failed : Association LooseText Unreadable := []
  deriving DecidableEq, Repr

/-- A batch with one file more. -/
def Batch.add (b : Batch) (p : Path) : Except Unreadable (List Routine) → Batch
  | .ok routines =>
    { b with
      routines := b.routines ++ routines
      files := b.files.set p.text routines.length }
  | .error unreadable => { b with failed := b.failed.set p.text unreadable }

/-- A batch with more files. -/
def Tree.addAll (t : Tree) (base : Option Path) (b : Batch) : List Path → Except Crash Batch
  | [] => .ok b
  | p :: rest =>
    match t.extract base p with
    | .error crash => .error crash
    | .ok outcome => t.addAll base (b.add p outcome) rest

/-- The batch of the source files that some paths stand for. -/
def Tree.extractAll (t : Tree) (paths : List Path) (base : Option Path) (workers : Option Int) :
    Except Crash Batch :=
  match t.collect paths with
  | .error crash => .error crash
  | .ok files =>
    match checkWorkers workers with
    | .error crash => .error crash
    | .ok () => t.addAll base {} files

end Files

end Docwright
