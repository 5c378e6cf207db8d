import Docwright.Remote.Reply
import Docwright.Settings

/-!
# The remote service

A chat service is asked for the documentation of a routine. What the service does with a request is
given as a function, so that a consultation is a value: the requests that were posted and what came
of them.
-/

namespace Docwright

namespace Remote

/-- A request to the chat service. -/
structure ChatRequest where
  /-- the address it is posted to -/
  url : String
  /-- the header that names the key -/
  authorization : String
  /-- the seconds it may take -/
  timeout : Number
  /-- the model that is asked -/
  model : String
  /-- how freely the model answers -/
  temperature : Number
  /-- what the model is told about its role -/
  instruction : String
  /-- the question -/
  prompt : String
  deriving DecidableEq, Repr

/-- What becomes of a request. -/
inductive Exchange where
  /-- it did not get through -/
  | refused (text : String)
  /-- it was answered -/
  | answered (status : Int) (body : String)
  deriving DecidableEq, Repr

/-- A chat service: how it is used, and what it does with a request. -/
structure Service where
  /-- the settings of requests -/
  settings : Settings
  /-- the answer to a request -/
  post : ChatRequest → Exchange

/-- What the model is told about its role. -/
def instruction : String :=
  "You are a technical documentation assistant that specializes in Python code analysis."

/-- The question about a source text. -/
def promptFor (source : String) : String :=
  "\nPlease analyze this Python function and provide comprehensive documentation for it:\n\n" ++
  "```python\n" ++ source ++ "\n```\n\n" ++
  "Generate a JSON output with the following structure:\n\x7b\n" ++
  "  \"title\": \"Human-readable title for the function\",\n" ++
  "  \"description\": \"Brief description of what the function does\",\n" ++
  "  \"functionality\": [\"List\", \"of\", \"key\", \"functionalities\"],\n" ++
  "  \"parameters\": [\n    \x7b\n      \"name\": \"parameter_name\",\n" ++
  "      \"type\": \"parameter_type\",\n      \"description\": \"parameter description\"\n" ++
  "    \x7d\n  ],\n" ++
  "  \"steps\": [\"Step 1 of the process\", \"Step 2 of the process\"],\n" ++
  "  \"returns\": \"Description of what the function returns\"\n\x7d\n"

/-- The request about a routine. -/
def Service.request (service : Service) (key : String) (r : Routine) : ChatRequest where
  url := service.settings.apiUrl
  authorization := "Bearer " ++ key
  timeout := service.settings.timeout
  model := service.settings.model
  temperature := service.settings.temperature
  instruction := instruction
  prompt := promptFor r.source

/-! ## Finding the reply in a response -/

/-- The value of a named field. -/
def named (key : String) (v : Json) : Except String Json :=
  match v.kind with
  | .object => ((v.field? key).map .ok).getD (.error (Text.quoted key))
  | .array => .error "list indices must be integers or slices, not str"
  | .string => .error "string indices must be integers, not 'str'"
  | kind => .error ("'" ++ kind.name ++ "' object is not subscriptable")

/-- The first item of an array, or the first glyph of a string. -/
def first (v : Json) : Except String Json :=
  match v with
  | .arr (item :: _) => .ok item
  | .arr [] => .error "list index out of range"
  | .str (g :: _) => .ok (.str [g])
  | .str [] => .error "string index out of range"
  | .obj _ => .error "0"
  | v => .error ("'" ++ v.kind.name ++ "' object is not subscriptable")

/-- The content of the first choice of a response. -/
def content (v : Json) : Except String Json := do
  named "content" (← named "message" (← first (← named "choices" v)))

/-- The documentation of a routine in the content of a response. A void content counts as an empty
reply. -/
def parseContent (r : Routine) (v : Json) : Except Stop Documentation :=
  if v.isVoid then parseReply [] r
  else
    match v with
    | .str s => parseReply s r
    | v => .error (.crashed (.content v.kind))

/-- The documentation of a routine in the body of a response. -/
def parseBody (r : Routine) (body : String) : Except Stop Documentation :=
  match Json.read body with
  | .error (.tooDeep holder) => .error (.crashed (.deepNesting holder))
  | .error error => .error (.failed (.response error.message))
  | .ok v =>
    match content v with
    | .error wording => .error (.failed (.response wording))
    | .ok v => parseContent r v

/-- Is the status one of an error? -/
def isErrorStatus (status : Int) : Bool :=
  400 ≤ status && status < 600

/-- The documentation of a routine in a response. -/
def parseExchange (r : Routine) : Exchange → Except Stop Documentation
  | .refused text => .error (.failed (.transport text))
  | .answered status body =>
    if isErrorStatus status then .error (.failed (.status status body))
    else parseBody r body

/-- What came of asking the service about a routine. -/
structure Consultation where
  /-- the requests that were posted -/
  requests : List ChatRequest
  /-- the documentation, or why there is none -/
  outcome : Except Stop Documentation

/-- Ask the service about a routine. Without a key nothing is posted. -/
def Service.consult (service : Service) (r : Routine) : Consultation :=
  match service.settings.apiKey.filter (!·.isEmpty) with
  | none => ⟨[], .error (.failed .noKey)⟩
  | some key =>
    let request := service.request key r
    ⟨[request], parseExchange r (service.post request)⟩

end Remote

end Docwright
