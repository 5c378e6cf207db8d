import Docwright.Crash
import Docwright.Documentation.Basic
import Docwright.Schema
import Docwright.Text.Search

/-!
# Replies

A reply is free text that should hold a JSON object with the documentation of a routine. The object
may stand in a fence, or among other words. It has to have the shape of documentation and to list
exactly the parameters of the routine.
-/

namespace Docwright

namespace Remote

/-! ## The object in a reply -/

/-- The mark that opens and closes a fence. -/
def fence : LooseText := "```"

/-- The fenced text behind one of the newlines of `run`, which `rest` follows: the last newline that
leaves room for a closing fence. -/
def fencedBehind? : (run rest : LooseText) → Option LooseText
  | [], _ => none
  | g :: run, rest =>
    match fencedBehind? run rest with
    | some text => some text
    | none =>
      if g = .char '\n' then (Text.cut? (.char '\n' :: fence) (run ++ rest)).map (·.1) else none

/-- The text of the first fence that starts with `opening`, only blanks being left on its line. -/
def fenced? (opening : LooseText) : LooseText → Option LooseText
  | [] => none
  | g :: s =>
    let here :=
      match Text.after? opening (g :: s) with
      | none => none
      | some rest => fencedBehind? (rest.takeWhile (Glyph.isIn Text.isBlank))
          (rest.dropWhile (Glyph.isIn Text.isBlank))
    match here with
    | some text => some text
    | none => fenced? opening s

/-- The text from the first opening brace to the last closing one. -/
def braced? (s : LooseText) : Option LooseText :=
  (Text.splitLast? (.char '}') (s.dropWhile (· != .char '{'))).map fun (inner, _) =>
    inner ++ [.char '}']

/-- The part of a reply that should be the object: a fence marked as JSON, else any fence, else the
widest text between braces, else all of it. -/
def objectText (reply : LooseText) : LooseText :=
  let fenced := (fenced? (fence ++ LooseText.ofString "json") reply).or (fenced? fence reply)
  (fenced.or (braced? reply)).getD reply

/-! ## The shape of documentation -/

/-- A string that is not empty. -/
def filledString : Schema.Check String :=
  Schema.boundedString 1 none

/-- The type of a parameter of which none is known. -/
def anyType : LooseText := "Any"

/-- A parameter of a reply. -/
def noteCheck : Schema.Check ParameterNote :=
  Schema.object "RemoteParameter" fun place v =>
    Schema.Checked.ap
      (Schema.Checked.ap
        ((Schema.required "name" filledString place v).map fun name type description =>
          ({ name, type := if type.isEmpty then anyType else type, description } : ParameterNote))
        (Schema.optional "type" anyType Schema.string place v))
      (Schema.optional "description" [] Schema.string place v)

/-- The documentation of a reply. -/
def documentationCheck : Schema.Check Documentation :=
  Schema.object "RemoteDocumentation" fun place v =>
    let sentences := Schema.array 1 Schema.string
    Schema.Checked.ap
      (Schema.Checked.ap
        (Schema.Checked.ap
          (Schema.Checked.ap
            (Schema.Checked.ap
              ((Schema.required "title" filledString place v).map Documentation.mk)
              (Schema.required "description" Schema.string place v))
            (Schema.required "functionality" sentences place v))
          (Schema.optional "parameters" [] (Schema.array 0 noteCheck) place v))
        (Schema.required "steps" sentences place v))
      (Schema.required "returns" filledString place v)

/-! ## Taking a reply -/

/-- Why the remote service gave no documentation. -/
inductive Failure where
  /-- there is no key to use -/
  | noKey
  /-- the request did not get through -/
  | transport (text : String)
  /-- the service answered with an error status -/
  | status (code : Int) (body : String)
  /-- the response has another form than agreed -/
  | response (wording : String)
  /-- the reply holds no JSON -/
  | unreadable (error : Json.ReadError)
  /-- the reply has some faults of shape -/
  | shape (faults : Nat)
  /-- the reply is about other parameters -/
  | parameters (received expected : List String)
  deriving DecidableEq, Repr

/-- The wording of a failure. -/
def Failure.message : Failure → String
  | .noKey => "API key is required for remote documentation"
  | .transport text => "Request failed: " ++ text
  | .status code body =>
    "API error: " ++ toString code ++ " - " ++ String.ofList (body.toList.take 200)
  | .response wording => "Unexpected API response: " ++ wording
  | .unreadable error => "Reply is not valid JSON: " ++ error.message
  | .shape faults =>
    "Reply does not match the documentation schema: " ++ toString faults ++ " errors"
  | .parameters received expected =>
    "Reply documents parameters " ++ Text.quotedList received ++ ", expected " ++
      Text.quotedList expected

/-- The status that a failure is about. -/
def Failure.status? : Failure → Option Int
  | .status code _ => some code
  | _ => none

/-- Why there is no documentation: a failure that can be made up for, or a crash. -/
inductive Stop where
  /-- something else can be used instead -/
  | failed (failure : Failure)
  /-- nothing can -/
  | crashed (crash : Crash)
  deriving DecidableEq, Repr

/-- The documentation in the object of a reply, if it is about the routine's parameters. -/
def accept (r : Routine) (v : Json) : Except Stop Documentation :=
  match documentationCheck [] v with
  | .error faults => .error (.failed (.shape faults.length))
  | .ok d =>
    if d.parameterNames = r.parameterNames then .ok d
    else .error (.failed (.parameters d.parameterNames r.parameterNames))

/-- The object of a reply. -/
def readObject (reply : LooseText) : Except Stop Json :=
  match Json.read (objectText reply) with
  | .ok v => .ok v
  | .error (.tooLong digits) => .error (.crashed (.longNumber digits))
  | .error (.tooDeep holder) => .error (.crashed (.deepNesting holder))
  | .error error => .error (.failed (.unreadable error))

/-- The documentation of a routine in a reply. -/
def parseReply (reply : LooseText) (r : Routine) : Except Stop Documentation :=
  (readObject reply).bind (accept r)

end Remote

end Docwright
