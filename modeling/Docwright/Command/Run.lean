import Docwright.Command.Documents
import Docwright.Command.Usage
import Docwright.Files.Batch
import Docwright.Remote.Fallback
import Docwright.Report.Validation

/-!
# Running the command

A run reads the source files, documents their routines, validates the documentation and prints it
or writes it to the output directory. It is a function of the command line and of the host: the
environment, the files, the remote service, and the stream that is printed to.
-/

namespace Docwright

namespace Command

/-- A stream that texts are printed to: what goes wrong when a text is printed. -/
abbrev Stream := LooseText → Option Crash

/-- A stream in memory, which takes every text. -/
def Stream.memory : Stream := fun _ => none

/-- A stream of bytes in UTF-8, which takes whole texts only. -/
def Stream.strict : Stream := fun text => (Text.Utf8.unencodable? text).map .unencodable

/-- A stream of bytes in UTF-8 that puts in the bytes that a text holds. -/
def Stream.escaping : Stream := fun text => (Text.Utf8.byteless? text).map .unencodable

/-- What a run finds around it. -/
structure Host where
  /-- the environment variables -/
  environment : Settings.Environment := []
  /-- the file system -/
  tree : Files.Tree
  /-- what becomes of a request to the remote service -/
  post : Remote.ChatRequest → Remote.Exchange
  /-- the stream that is printed to -/
  stdout : Stream := .memory

/-- What a run leaves behind. -/
structure Outcome where
  /-- the exit status, or the fault that ended the run -/
  ending : Except Crash Nat
  /-- what was printed -/
  output : LooseText := []
  /-- what was reported on the side -/
  notes : LooseText := []
  /-- the file system afterwards -/
  tree : Files.Tree

/-- Lines of text, each with its newline. -/
def asLines (lines : List LooseText) : LooseText :=
  lines.flatMap (· ++ [.char '\n'])

/-- A line about something that went well. -/
def goodLine (text : LooseText) : LooseText :=
  "  ✓ " ++ text

/-- A line about something that went wrong. -/
def badLine (text : LooseText) : LooseText :=
  "  ✗ " ++ text

/-- The notes about the files that could not be read. -/
def failedLines (batch : Files.Batch) : List LooseText :=
  batch.failed.map fun (_, unreadable) => badLine unreadable.message

/-- The notes about the files that could be read. -/
def readLines (batch : Files.Batch) : List LooseText :=
  batch.files.map fun (path, count) => goodLine (path ++ ": " ++ toString count ++ " functions")

/-- The notes about errors of validation. -/
def errorLines (errors : List LooseText) : List LooseText :=
  if errors.isEmpty then [] else [] :: "Validation errors:" :: errors.map badLine

/-- The routines that are asked for. An empty name asks for all. -/
def Arguments.select (a : Arguments) (routines : List Routine) : List Routine :=
  match a.function.filter (!·.isEmpty) with
  | none => routines
  | some name => routines.filter (LooseText.ofString ·.name = name)

/-- The remote service, if it is to be asked and there is a key. -/
def Arguments.service? (a : Arguments) (settings : Settings) (host : Host) :
    Option Remote.Service :=
  if (a.remote || settings.remoteEnabled) && settings.apiKey.any (!·.isEmpty) then
    some { settings, post := host.post }
  else none

/-- The end of a run: the documentation is printed or written, and errors decide the status. -/
def finish (a : Arguments) (host : Host) (notes : List LooseText) (pairs : List Documented) :
    Outcome :=
  let errors := (validate a.strict pairs).errors
  let status := if errors.isEmpty then 0 else 1
  match a.output with
  | none =>
    let text := printedText pairs a.format
    match host.stdout text with
    | some crash => { ending := .error crash, notes := asLines notes, tree := host.tree }
    | none =>
      { ending := .ok status
        output := text
        notes := asLines (notes ++ errorLines errors)
        tree := host.tree }
  | some directory =>
    let directory := Files.Path.ofText directory
    match writeDocuments host.tree directory pairs a.format with
    | (tree, some crash) => { ending := .error crash, notes := asLines notes, tree }
    | (tree, none) =>
      let written : List LooseText :=
        (documents directory pairs a.format).map fun d => "  " ++ d.path.text
      { ending := .ok status, notes := asLines (notes ++ written ++ errorLines errors), tree }

/-- The middle of a run: the routines that are asked for are documented. -/
def documentBatch (a : Arguments) (settings : Settings) (host : Host) (notes : List LooseText)
    (batch : Files.Batch) : Outcome :=
  let routines := a.select batch.routines
  match Remote.documentAll (a.service? settings host) none routines with
  | .error crash => { ending := .error crash, notes := asLines notes, tree := host.tree }
  | .ok pairs =>
    let share : LooseText := "Docstring coverage: " ++ percentText (coverage routines)
    finish a host (notes ++ [[], share]) pairs

/-- A run with settings. -/
def runWith (a : Arguments) (settings : Settings) (host : Host) : Outcome :=
  let start : List LooseText := ["Extracting functions..."]
  match host.tree.extractAll (a.paths.map .ofText) none none with
  | .error crash => { ending := .error crash, notes := asLines start, tree := host.tree }
  | .ok batch =>
    let notes := start ++ failedLines batch
    if batch.files.isEmpty then
      { ending := .ok 1
        notes := asLines (notes ++ [LooseText.ofString "No readable source files."])
        tree := host.tree }
    else documentBatch a settings host (notes ++ readLines batch) batch

/-- A run with arguments. -/
def runArguments (a : Arguments) (host : Host) : Outcome :=
  match Settings.ofEnvironment host.environment with
  | .error error =>
    { ending := .ok 2, notes := asLines [badLine error.message], tree := host.tree }
  | .ok settings => runWith a settings host

/-- A run of the command. -/
def run (line : List LooseText) (host : Host) : Outcome :=
  match Arguments.parse line with
  | .error .help => { ending := .ok 0, output := helpText, tree := host.tree }
  | .error (.misused error) => { ending := .ok 2, notes := error.report, tree := host.tree }
  | .ok a => runArguments a host

end Command

end Docwright
