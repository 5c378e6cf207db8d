import Docwright.Remote.Fallback
import Docwright.Report.Export
import Docwright.Report.Markdown
import Docwright.Source.Extraction
import Docwright.Web.Message
import Docwright.Web.Order

/-!
# Answering requests

Three services are offered: extraction, documentation, and documentation as one Markdown text. A
request for anything else, or with another method, is turned down. A place that is only written with
too many slashes is answered with its proper address.
-/

namespace Docwright

namespace Web

/-- The services. -/
inductive Offer where
  /-- extraction -/
  | extraction
  /-- documentation -/
  | documentation
  /-- documentation as a Markdown text -/
  | markdown
  deriving DecidableEq, Repr

/-- What can stand at a place. -/
inductive Resource where
  /-- a service -/
  | offer (offer : Offer)
  /-- a file to be handed out; there are none -/
  | file
  /-- nothing -/
  | nothing
  deriving DecidableEq, Repr

/-- What stands at a place. -/
def Resource.ofPlace (place : List Char) : Resource :=
  if place = "api/extract".toList then .offer .extraction
  else if place = "api/document".toList then .offer .documentation
  else if place = "api/export".toList then .offer .markdown
  else
    match Text.after? "static/".toList place with
    | some (c :: rest) => if c = '/' || rest.contains '\n' then .nothing else .file
    | _ => .nothing

/-- Is there an answer to a method? -/
def Resource.takes : Resource → (verb : String) → Bool
  | .offer _, verb => verb = "POST" || verb = "OPTIONS"
  | .file, verb => verb = "GET" || verb = "HEAD" || verb = "OPTIONS"
  | .nothing, _ => false

/-- The settings of the web interface, and what becomes of a request to the remote service. -/
structure App where
  /-- the settings -/
  settings : Settings
  /-- what becomes of a request to the remote service -/
  post : Remote.ChatRequest → Remote.Exchange

/-- A status with a body. -/
abbrev Answer := Nat × Content

/-- The answer that names an error. -/
def errorAnswer (status : Nat) (text : String) : Answer :=
  (status, .json (.obj [("error", .str text)]))

/-- There is nothing at the place. -/
def notFound : Answer :=
  errorAnswer 404 "not found"

/-- The method is not one of the place. -/
def methodNotAllowed : Answer :=
  errorAnswer 405 "method not allowed"

/-- The request cannot be understood. -/
def badRequest : Answer :=
  errorAnswer 400 "bad request"

/-- The request cannot be answered. -/
def serverError : Answer :=
  errorAnswer 500 "internal server error"

/-- One character of a text inside a page. -/
def escapeMarkup : Char → List Char
  | '&' => "&amp;".toList
  | '<' => "&lt;".toList
  | '>' => "&gt;".toList
  | '\'' => "&#39;".toList
  | '"' => "&#34;".toList
  | c => [c]

/-- The page that points to an address. -/
def redirectPage (address : Address) : String :=
  let link := String.ofList (address.text.flatMap escapeMarkup)
  "<!doctype html>\n<html lang=en>\n<title>Redirecting...</title>\n<h1>Redirecting...</h1>\n" ++
  "<p>You should be redirected automatically to the target URL: <a href=\"" ++ link ++ "\">" ++
  link ++ "</a>. If not, click the link.\n"

/-- The answer that points to an address. A question for the head of it has no body. -/
def redirect (verb : String) (address : Address) : Answer :=
  (308, .text "text/html" (if verb = "HEAD" then "" else redirectPage address))

/-- The answer to a question for the methods of a place. -/
def methodsAnswer : Answer :=
  (200, .text "text/html" "")

/-- The answer to a document with faults. -/
def faultAnswer (faults : List Schema.Fault) : Answer :=
  (400, .json (.obj [("error", .str "validation failed"),
    ("details", .arr (faults.map (·.toJson)))]))

/-- The remote service, if the settings are ready for it. -/
def App.service? (app : App) : Option Remote.Service :=
  if app.settings.remoteReady then some { settings := app.settings, post := app.post } else none

/-- The routines of an order. -/
def Order.routines (o : Order) : List Routine :=
  Source.extract o.text o.fileName

/-- The routines of an order that have the name it asks for. -/
def Order.selected (o : Order) : List Routine :=
  match o.function with
  | none => o.routines
  | some name => o.routines.filter (·.name = name)

/-- The answer to an order for extraction. -/
def extractionAnswer (o : Order) : Answer :=
  (200, .json (o.standIns.revealJson (.obj [("functions", .arr (o.routines.map (·.toJson)))])))

/-- The answer to an order for documentation. `render` makes the answer of the stand-ins and the
documented routines. -/
def documentationAnswer (app : App) (render : StandIns → List Documented → Answer) (o : Order) :
    Answer :=
  match o.function, o.selected with
  | some name, [] => errorAnswer 404 ("function " ++ Text.quoted name ++ " not found")
  | _, routines =>
    match Remote.documentAll app.service? none routines with
    | .error _ => serverError
    | .ok pairs => render o.standIns pairs

/-- Documented routines as a JSON document. -/
def jsonAnswer (table : StandIns) (pairs : List Documented) : Answer :=
  (200, .json (table.revealJson (.obj [("documents", Documented.listToJson pairs)])))

/-- Documented routines as a Markdown text, which has to be whole. -/
def markdownAnswer (table : StandIns) (pairs : List Documented) : Answer :=
  match (table.reveal (Markdown.batch pairs)).whole? with
  | some text => (200, .text "text/markdown" text)
  | none => serverError

/-- The answer of a service to a document. -/
def App.serve (app : App) (offer : Offer) (v : Json) : Answer :=
  let answer (check : Schema.Check Order) (take : Order → Answer) : Answer :=
    match check [] v with
    | .error faults => faultAnswer faults
    | .ok order => take order
  match offer with
  | .extraction => answer extractionOrder extractionAnswer
  | .documentation => answer documentationOrder (documentationAnswer app jsonAnswer)
  | .markdown => answer documentationOrder (documentationAnswer app markdownAnswer)

/-- The answer of a resource to a request with a method that it takes. -/
def App.answerAt (app : App) (r : Request) : Resource → Answer
  | .offer offer =>
    if r.verb = "OPTIONS" then methodsAnswer
    else
      match r.document with
      | .error .cutShort => badRequest
      | .error .tooDeep => serverError
      | .ok v => app.serve offer v
  | .file => if r.verb = "OPTIONS" then methodsAnswer else notFound
  | .nothing => notFound

/-- The answer to a request: the one of the resource at its place, or of the one that stands there
when slashes are merged, unless the method, the protocol or the host is not a proper one. -/
def App.answer (app : App) (r : Request) : Answer :=
  let guarded (resource : Resource) (answer : Answer) : Answer :=
    if !resource.takes r.verb then methodNotAllowed
    else if r.isUpgrade then badRequest
    else answer
  if Host.isBroken r.host then badRequest
  else
    match Resource.ofPlace r.place with
    | .nothing =>
      let merged := mergeSlashes r.place
      match Resource.ofPlace merged with
      | .nothing => notFound
      | resource => guarded resource (redirect r.verb (r.addressOf merged))
    | resource => guarded resource (app.answerAt r resource)

/-- The response to a request, with the mark of the request. -/
def App.respond (app : App) (r : Request) : Response :=
  let (status, content) := app.answer r
  ⟨status, r.id, content⟩

end Web

end Docwright
