import Docwright.Command.Flag
import Docwright.Text.Quoted

/-!
# Arguments

What a command line asks for. The paths stand together: words behind a flag that follows the paths
belong to nothing. Flags with one dash can be given in a cluster, and the last of the cluster may
take a value. The mark is never a value: a flag with the mark joined to it is given none.
-/

namespace Docwright

namespace Command

/-- The formats of documents. -/
inductive Format where
  /-- Markdown -/
  | markdown
  /-- JSON -/
  | json
  deriving DecidableEq, Repr

/-- The format with a name. -/
def Format.ofName? (name : LooseText) : Option Format :=
  match name.whole? with
  | some "markdown" => some .markdown
  | some "json" => some .json
  | _ => none

/-- What a command line asks for. -/
structure Arguments where
  /-- the files and directories to document -/
  paths : List LooseText := []
  /-- the directory for the documents -/
  output : Option LooseText := none
  /-- the format of the documents -/
  format : Format := .markdown
  /-- the name of the functions to document -/
  function : Option LooseText := none
  /-- is the remote service to be asked? -/
  remote : Bool := false
  /-- is a missing docstring an error? -/
  strict : Bool := false
  /-- is everything to be logged? -/
  verbose : Bool := false
  deriving DecidableEq, Repr

/-- What can be wrong with a command line. -/
inductive UsageError where
  /-- no paths are given -/
  | noPaths
  /-- a shortened flag could be more than one -/
  | ambiguous (ambiguity : Ambiguity)
  /-- a flag that needs a value has none -/
  | noValue (flag : Flag)
  /-- a flag that takes no value has one -/
  | needlessValue (flag : Flag) (value : LooseText)
  /-- there is no such format -/
  | noFormat (value : LooseText)
  /-- some arguments belong to nothing -/
  | leftOver (arguments : List LooseText)
  deriving DecidableEq, Repr

/-- The wording of a usage error. -/
def UsageError.message : UsageError → LooseText
  | .noPaths => "the following arguments are required: paths"
  | .ambiguous ambiguity =>
    "ambiguous option: " ++ ambiguity.given ++ " could match " ++
      ", ".intercalate ambiguity.candidates
  | .noValue flag => "argument " ++ flag.name ++ ": expected one argument"
  | .needlessValue flag value =>
    "argument " ++ flag.name ++ ": ignored explicit argument " ++ Text.quoted value
  | .noFormat value =>
    "argument " ++ Flag.format.name ++ ": invalid choice: " ++ Text.quoted value ++
      " (choose from 'markdown', 'json')"
  | .leftOver arguments => "unrecognized arguments: " ++ Text.join [.char ' '] arguments

/-- Why a command line asks for no run. -/
inductive Halt where
  /-- it asks for the help text -/
  | help
  /-- something is wrong with it -/
  | misused (error : UsageError)
  deriving DecidableEq, Repr

/-! ## Clusters -/

/-- How a cluster of flags ends. -/
inductive ClusterEnd where
  /-- with a flag that takes no value -/
  | plain
  /-- with a flag and its value -/
  | value (flag : Flag) (text : LooseText)
  /-- with a flag whose value has to be the next argument -/
  | owed (flag : Flag)
  deriving DecidableEq, Repr

/-- The flags in one argument. -/
structure Cluster where
  /-- flags that take no value -/
  switches : List Flag
  /-- how the cluster ends -/
  ending : ClusterEnd
  deriving DecidableEq, Repr

/-- The cluster with one flag more in front. -/
def Cluster.cons (f : Flag) (c : Cluster) : Cluster :=
  { c with switches := f :: c.switches }

/-- The cluster of one flag, with nothing joined to it. -/
def Cluster.single (f : Flag) : Cluster :=
  if f.takesValue then ⟨[], .owed f⟩ else ⟨[f], .plain⟩

/-- The cluster of a flag with something joined to it: the value if the flag takes one, else more
flags with one dash. -/
def Cluster.ofJoined (f : Flag) (isLong : Bool) : LooseText → Except UsageError Cluster
  | [] =>
    if f.takesValue then .ok ⟨[], .value f []⟩ else .error (.needlessValue f [])
  | g :: rest =>
    let joined := g :: rest
    if f.takesValue then .ok ⟨[], .value f joined⟩
    else if isLong then .error (.needlessValue f joined)
    else
      match Flag.ofSpelling? [.char '-', g] with
      | none => .error (.needlessValue f joined)
      | some next =>
        if rest.isEmpty then .ok (Cluster.cons f (Cluster.single next))
        else (Cluster.ofJoined next false rest).map (Cluster.cons f)

/-- The cluster of a flag. -/
def Cluster.ofFlag (f : Flag) (isLong : Bool) : Option LooseText → Except UsageError Cluster
  | none => .ok (.single f)
  | some joined => Cluster.ofJoined f isLong joined

/-! ## Collecting -/

/-- How far the paths have come. -/
inductive PathStage where
  /-- none has come yet -/
  | ahead
  /-- they are coming -/
  | here
  /-- a flag came behind them -/
  | past
  deriving DecidableEq, Repr

/-- What has been collected from a command line. -/
structure Progress where
  /-- what is asked for so far -/
  arguments : Arguments := {}
  /-- how far the paths have come -/
  stage : PathStage := .ahead
  /-- what belongs to nothing -/
  leftOver : List LooseText := []
  deriving DecidableEq, Repr

namespace Progress

/-- A flag that takes no value. -/
def switch (p : Progress) : Flag → Except Halt Progress
  | .help => .error .help
  | .remote => .ok { p with arguments := { p.arguments with remote := true } }
  | .strict => .ok { p with arguments := { p.arguments with strict := true } }
  | .verbose => .ok { p with arguments := { p.arguments with verbose := true } }
  | _ => .ok p

/-- Flags that take no value. -/
def switchAll (p : Progress) : List Flag → Except Halt Progress
  | [] => .ok p
  | f :: rest =>
    match p.switch f with
    | .error halt => .error halt
    | .ok next => next.switchAll rest

/-- A value, unless it is the mark. -/
def value? (text : LooseText) : Option LooseText :=
  if text = LooseText.ofString mark then none else some text

/-- A flag with its value. A flag that is given none falls back to what holds without it. -/
def give (p : Progress) (flag : Flag) (value : Option LooseText) : Except Halt Progress :=
  match flag, value with
  | .output, value => .ok { p with arguments := { p.arguments with output := value } }
  | .function, value => .ok { p with arguments := { p.arguments with function := value } }
  | .format, none => .ok { p with arguments := { p.arguments with format := .markdown } }
  | .format, some name =>
    match Format.ofName? name with
    | some format => .ok { p with arguments := { p.arguments with format } }
    | none => .error (.misused (.noFormat name))
  | _, _ => .ok p

/-- Something that belongs to nothing. -/
def leave (p : Progress) (text : LooseText) : Progress :=
  { p with leftOver := p.leftOver ++ [text] }

/-- A flag ends the paths. -/
def pass (p : Progress) : Progress :=
  match p.stage with
  | .here => { p with stage := .past }
  | _ => p

/-- A word is a path, unless the paths are past. -/
def word (p : Progress) (text : LooseText) : Progress :=
  match p.stage with
  | .past => p.leave text
  | _ =>
    { p with
      stage := .here
      arguments := { p.arguments with paths := p.arguments.paths ++ [text] } }

/-- The mark belongs to the paths. -/
def passMark (p : Progress) : Progress :=
  match p.stage with
  | .past => p.leave mark
  | _ => p

/-- What has been collected from all arguments. The value that a flag is owed has to be the next
argument and a word. -/
def collect (p : Progress) : List Token → Except Halt Progress
  | [] => .ok p
  | .word text :: rest => (p.word text).collect rest
  | .mark :: rest => p.passMark.collect rest
  | .unknown text :: rest => (p.pass.leave text).collect rest
  | .flag flag isLong joined :: rest =>
    match Cluster.ofFlag flag isLong joined with
    | .error error => .error (.misused error)
    | .ok ⟨switches, ending⟩ =>
      match ending, rest with
      | .owed flag, .word value :: rest =>
        match (p.pass.switchAll switches).bind (·.give flag (value? value)) with
        | .error halt => .error halt
        | .ok next => next.collect rest
      | .owed flag, _ => .error (.misused (.noValue flag))
      | .plain, rest =>
        match p.pass.switchAll switches with
        | .error halt => .error halt
        | .ok next => next.collect rest
      | .value flag value, rest =>
        match (p.pass.switchAll switches).bind (·.give flag (value? value)) with
        | .error halt => .error halt
        | .ok next => next.collect rest

end Progress

/-- What a command line asks for. -/
def Arguments.parse (line : List LooseText) : Except Halt Arguments :=
  match Token.readAll line with
  | .error ambiguity => .error (.misused (.ambiguous ambiguity))
  | .ok tokens =>
    match ({} : Progress).collect tokens with
    | .error halt => .error halt
    | .ok p =>
      if p.stage = .ahead then .error (.misused .noPaths)
      else if !p.leftOver.isEmpty then .error (.misused (.leftOver p.leftOver))
      else .ok p.arguments

end Command

end Docwright
