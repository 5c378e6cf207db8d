import Docwright.Command.Run

/-!
# The command

The command takes a snapshot of the files that a run can reach, lets the run happen on it, and
carries over what has changed. There is no transport to the remote service; every request to it
fails, so that each routine documents itself.
-/

open Docwright

namespace Docwright.Main

/-- The text of a place. -/
def placeText (place : Files.Place) : String :=
  "/" ++ "/".intercalate (place.map fun name => String.ofList (Text.Utf8.decodeLossy name))

/-- The tree in which something may not be done at a place. -/
def deny (t : Files.Tree) (place : Files.Place) (right : Files.Right) : Files.Tree :=
  { t with denied := (place, right) :: t.denied }

/-- The tree with what stands at a place. A file that cannot be read is taken for one that may not
be. -/
def look (t : Files.Tree) (place : Files.Place) : IO Files.Tree := do
  let path := (← IO.currentDir) / placeText place
  if place.isEmpty then return t
  else if ← path.isDir then return t.put place .directory
  else if ← path.pathExists then
    try
      return t.put place (.file (← IO.FS.readBinFile path).toList)
    catch _ =>
      return deny (t.put place (.file [])) place .read
  else return t

/-- The names in a directory, if it can be listed. -/
def namesIn (place : Files.Place) : IO (Option (List Files.Name)) := do
  let path := (← IO.currentDir) / placeText place
  try
    return some ((← path.readDir).toList.map fun entry => Text.Utf8.encode entry.fileName)
  catch _ =>
    return none

/-- The tree with what stands below a place, down to a depth. -/
def lookBelow (depth : Nat) (t : Files.Tree) (place : Files.Place) : IO Files.Tree := do
  match depth with
  | 0 => return t
  | depth + 1 =>
    if ← ((← IO.currentDir) / placeText place).isDir then
      match ← namesIn place with
      | none => return deny t place .read
      | some names =>
        names.foldlM
          (fun t name => do lookBelow depth (← look t (place ++ [name])) (place ++ [name])) t
    else return t

/-- The tree with what stands on the way along some names, and the place where they end. -/
def follow (t : Files.Tree) (place : Files.Place) :
    List Files.Name → IO (Files.Tree × Files.Place)
  | [] => return (t, place)
  | name :: rest => do
    let next := if name = Files.upward then place.dropLast else place ++ [name]
    follow (← look t next) next rest

/-- The tree with what a path leads to, down to a depth. -/
def reach (depth : Nat) (t : Files.Tree) (path : LooseText) : IO Files.Tree := do
  let p := Files.Path.ofText path
  let (t, place) ← follow t (t.start p) p.way
  lookBelow depth t place

/-- The files that a command line can reach. Source files are looked for at any depth; of the
output directory only the entries matter. -/
def snapshot (line : List LooseText) : IO Files.Tree := do
  let here := Files.Path.ofText (← IO.currentDir).toString
  let t := Files.Tree.bare here.way
  match Command.Arguments.parse line with
  | .error _ => return t
  | .ok a =>
    let t ← a.paths.foldlM (reach 64) t
    a.output.toList.foldlM (reach 1) t

/-- Carry a change over to the file system. -/
def carry (change : Files.Place × Files.Entry) : IO Unit := do
  let path := (← IO.currentDir) / placeText change.1
  match change.2 with
  | .directory => IO.FS.createDirAll path
  | .file bytes => IO.FS.writeBinFile path bytes.toByteArray

/-- The environment variables that matter. -/
def environment : IO Settings.Environment := do
  let found ← Settings.variableNames.mapM fun key => do
    return (← IO.getEnv key).map fun value => (key, value)
  return found.filterMap id

end Docwright.Main

open Docwright.Main in
/-- Document the functions in source files. -/
def main (line : List String) : IO UInt32 := do
  let line := line.map LooseText.ofString
  let tree ← snapshot line
  let host : Command.Host :=
    { environment := ← environment, tree, post := fun _ => .refused "no transport"
      stdout := .strict }
  let outcome := Command.run line host
  (outcome.tree.changesFrom tree).forM carry
  IO.print (Text.spelledOut outcome.output)
  IO.eprint (Text.spelledOut outcome.notes)
  match outcome.ending with
  | .ok status => return status.toUInt32
  | .error crash =>
    IO.eprintln crash.message
    return 1
