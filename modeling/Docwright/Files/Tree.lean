import Docwright.Association
import Docwright.Files.Path
import Docwright.Files.SystemError

/-!
# File trees

A file tree is a snapshot of the part of a file system that a run deals with: which files and
directories stand under which names, the working directory, and what the run may not do where.
Links and special files are left out. Names are bytes. Every operation walks to its place name by
name, and is refused as soon as a name leads nowhere or a directory lets nobody through.
-/

namespace Docwright

namespace Files

/-- What can stand under a name. -/
inductive Entry where
  /-- a file with its bytes -/
  | file (bytes : List UInt8)
  /-- a directory -/
  | directory
  deriving DecidableEq, Repr

/-- A name in a directory. -/
abbrev Name := List UInt8

/-- The name of the directory around a directory. -/
def upward : Name := Text.Utf8.encode ".."

/-- The names that lead from the root directory to an entry. -/
abbrev Place := List Name

/-- The names that a path spells. -/
def Path.way (p : Path) : List Name :=
  p.names.map LooseText.bytes

/-- What may be done with an entry. -/
inductive Right where
  /-- reading a file, or listing a directory -/
  | read
  /-- writing to a file, or making entries in a directory -/
  | write
  /-- going on to the entries of a directory -/
  | pass
  deriving DecidableEq, Repr

/-- A snapshot of files and directories. The root directory is always there, and what is not denied
is allowed. -/
structure Tree where
  /-- the entries below the root directory -/
  entries : Association Place Entry := []
  /-- the working directory -/
  working : Place := []
  /-- what may not be done, and where -/
  denied : List (Place × Right) := []
  deriving DecidableEq, Repr

namespace Tree

/-- The entry at a place. -/
def find? (t : Tree) (place : Place) : Option Entry :=
  if place.isEmpty then some .directory else t.entries.lookup place

/-- The tree with another entry at a place. Where nothing stood, everything may be done with it. -/
def put (t : Tree) (place : Place) (entry : Entry) : Tree :=
  { t with
    entries := t.entries.set place entry
    denied :=
      if (t.find? place).isSome then t.denied else t.denied.filter fun denial => denial.1 ≠ place }

/-- **Reading after a `put`.** The new entry stands at its place, and all others are kept. -/
theorem find?_put (t : Tree) {place : Place} (h : place ≠ []) (entry : Entry) (other : Place) :
    (t.put place entry).find? other = if other = place then some entry else t.find? other := by
  rw [find?, find?, put]
  by_cases ho : other = []
  · simp [ho, Ne.symm h]
  · simp [List.isEmpty_iff, ho, Association.lookup_set]

/-- The tree with a directory for each of some names, one in the other, where nothing stood
before. -/
def ensureBelow (t : Tree) (place : Place) : List Name → Tree
  | [] => t
  | name :: rest =>
    let next := place ++ [name]
    if (t.find? next).isSome then t.ensureBelow next rest
    else (t.put next .directory).ensureBelow next rest

/-- The tree with directories at a place and on the way there. -/
def ensure (t : Tree) (place : Place) : Tree :=
  t.ensureBelow [] place

/-- The tree that holds nothing but its working directory. -/
def bare (working : Place) : Tree :=
  Tree.ensure { working } working

/-- The tree with an entry, and with the directories on the way to it. -/
def plant (t : Tree) (place : Place) (entry : Entry) : Tree :=
  (t.ensure place.dropLast).put place entry

/-- May something be done at a place? -/
def allows (t : Tree) (place : Place) (right : Right) : Bool :=
  !t.denied.contains (place, right)

/-! ## Walking -/

/-- The most bytes that a name may have. -/
def nameLimit : Nat := 255

/-- The most bytes that the text of a path may have. -/
def pathLimit : Nat := 4095

/-- Is the path longer than it may be? -/
def isTooLong (p : Path) : Bool :=
  pathLimit < p.text.bytes.length

/-- Is there a directory at the place? -/
def checkDirectory (t : Tree) (place : Place) : Except Refusal Unit :=
  match t.find? place with
  | some .directory => .ok ()
  | some (.file _) => .error .notDirectory
  | none => .error .noEntry

/-- Is there a directory at the place that can be passed through? -/
def checkPassage (t : Tree) (place : Place) : Except Refusal Unit :=
  match t.checkDirectory place with
  | .error refusal => .error refusal
  | .ok () => if t.allows place .pass then .ok () else .error .denied

/-- One step of a walk, from a directory to one of its entries or to its parent. -/
def step (t : Tree) (place : Place) (name : Name) : Except Refusal Place :=
  match t.checkPassage place with
  | .error refusal => .error refusal
  | .ok () =>
    if name = upward then .ok place.dropLast
    else if nameLimit < name.length then .error .nameTooLong
    else if (t.find? (place ++ [name])).isSome then .ok (place ++ [name])
    else .error .noEntry

/-- The place that some names lead to. -/
def walk (t : Tree) (place : Place) : List Name → Except Refusal Place
  | [] => .ok place
  | name :: rest =>
    match t.step place name with
    | .error refusal => .error refusal
    | .ok next => t.walk next rest

/-- The place where a path starts. -/
def start (t : Tree) (p : Path) : Place :=
  match p.root with
  | .working => t.working
  | _ => []

/-- The place of a path. -/
def locate (t : Tree) (p : Path) : Except Refusal Place :=
  if isTooLong p then .error .nameTooLong else t.walk (t.start p) p.way

/-- The entry under a path. -/
def entry (t : Tree) (p : Path) : Except Refusal Entry :=
  match t.locate p with
  | .error refusal => .error refusal
  | .ok place =>
    match t.find? place with
    | some entry => .ok entry
    | none => .error .noEntry

/-! ## Reading -/

/-- The bytes of a file. -/
def bytes (t : Tree) (p : Path) : Except Refusal (List UInt8) :=
  match t.locate p with
  | .error refusal => .error refusal
  | .ok place =>
    match t.find? place with
    | none => .error .noEntry
    | some entry =>
      if !t.allows place .read then .error .denied
      else
        match entry with
        | .directory => .error .isDirectory
        | .file bytes => .ok bytes

/-- Is there a directory under the path? That nothing is there is an answer; a name that is too
long is not, nor is a directory on the way that lets nobody through. -/
def isDirectory (t : Tree) (p : Path) : Except SystemError Bool :=
  match t.entry p with
  | .ok .directory => .ok true
  | .error .nameTooLong => .error ⟨.nameTooLong, p.text⟩
  | .error .denied => .error ⟨.denied, p.text⟩
  | _ => .ok false

/-- Does the listing of a directory and of the directories in it come to see what some names lead
to? The directories on the way have to be listed and, but for the last one, to be passed
through. -/
def shows (t : Tree) (place : Place) : List Name → Bool
  | [] => true
  | [_] => t.allows place .read
  | name :: rest =>
    t.allows place .read && t.allows place .pass && t.shows (place ++ [name]) rest

/-- Is there a file at the place? -/
def isFile (t : Tree) (place : Place) : Bool :=
  match t.find? place with
  | some (.file _) => true
  | _ => false

/-- The names that lead from one place to the files below it that a listing shows. -/
def filesBelow (t : Tree) (place : Place) : List (List Name) :=
  t.entries.filterMap fun (other, _) =>
    let way := other.drop place.length
    if place.isPrefixOf other && t.isFile other && t.shows place way then some way else none

/-! ## Writing -/

/-- The directory and the name in it that a path leads to, for something that may not be there
yet. A path that ends with no name of its own is met with `nameless`. -/
def slot (t : Tree) (p : Path) (nameless : Refusal) : Except Refusal Place :=
  if isTooLong p then .error .nameTooLong
  else
    match p.way.getLast? with
    | none => .error nameless
    | some name =>
      match t.walk (t.start p) p.way.dropLast with
      | .error refusal => .error refusal
      | .ok place =>
        match t.checkPassage place with
        | .error refusal => .error refusal
        | .ok () =>
          if name = upward then .error nameless
          else if nameLimit < name.length then .error .nameTooLong
          else .ok (place ++ [name])

/-- The tree with a new directory. -/
def makeDirectory (t : Tree) (p : Path) : Except Refusal Tree :=
  match t.slot p .exists with
  | .error refusal => .error refusal
  | .ok place =>
    if (t.find? place).isSome then .error .exists
    else if !t.allows place.dropLast .write then .error .denied
    else .ok (t.put place .directory)

/-- The tree with bytes written to a file. -/
def write (t : Tree) (p : Path) (bytes : List UInt8) : Except Refusal Tree :=
  match t.slot p .isDirectory with
  | .error refusal => .error refusal
  | .ok place =>
    match t.find? place with
    | some .directory => .error .isDirectory
    | some (.file _) =>
      if t.allows place .write then .ok (t.put place (.file bytes)) else .error .denied
    | none =>
      if t.allows place.dropLast .write then .ok (t.put place (.file bytes)) else .error .denied

/-- A refused directory does no harm if there is one already. -/
def tolerate (t : Tree) (p : Path) (refusal : Refusal) : Option SystemError :=
  match t.isDirectory p with
  | .error error => some error
  | .ok true => none
  | .ok false => some ⟨refusal, p.text⟩

/-- The tree with a directory, if its parent is there, and what went wrong. -/
def makeOne (t : Tree) (p : Path) : Tree × Option SystemError :=
  match t.makeDirectory p with
  | .ok made => (made, none)
  | .error .noEntry => (t, some ⟨.noEntry, p.text⟩)
  | .error refusal => (t, t.tolerate p refusal)

/-- The tree with a directory and all that are missing on the way there, and what went wrong. What
was made before something went wrong stays. -/
def makeDirectories (t : Tree) (p : Path) : Tree × Option SystemError :=
  match t.makeDirectory p with
  | .ok made => (made, none)
  | .error .noEntry =>
    if _h : p.names = [] then (t, some ⟨.noEntry, p.text⟩)
    else
      match t.makeDirectories p.parent with
      | (made, some error) => (made, some error)
      | (made, none) => made.makeOne p
  | .error refusal => (t, t.tolerate p refusal)
termination_by p.names.length
decreasing_by
  have : 0 < p.names.length := List.length_pos_iff.2 _h
  simp only [Path.parent, List.length_dropLast]
  omega

/-! ## Comparing -/

/-- The entries that another tree does not hold, or holds differently. What was made first comes
first, so that a directory comes before what stands in it. -/
def changesFrom (t old : Tree) : List (Place × Entry) :=
  t.entries.filter fun change => old.find? change.1 ≠ some change.2

/-- The changed files below the working directory, each with its path from there. -/
def filesBeyond (t old : Tree) : List (Path × List UInt8) :=
  (t.changesFrom old).filterMap fun (place, entry) =>
    match entry with
    | .file bytes =>
      if t.working.isPrefixOf place then
        some (⟨.working, (place.drop t.working.length).map .ofBytes⟩, bytes)
      else none
    | .directory => none

end Tree

end Files

end Docwright
