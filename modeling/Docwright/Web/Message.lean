import Docwright.Json.Encoding
import Docwright.Json.Reader
import Docwright.Web.Address
import Docwright.Web.Host

/-!
# Requests and responses

A request of the web interface and what can be read from it: the place it asks for, its mark, and
the JSON document in its body. A body that is not marked as JSON or cannot be read counts as an
empty object; only a body that is shorter than announced or nested too deep is refused.
-/

namespace Docwright

namespace Web

/-- A request. -/
structure Request where
  /-- the method, in any case -/
  method : String := "POST"
  /-- the address, with a query if there is one -/
  target : String
  /-- the headers -/
  headers : List (String × String) := []
  /-- the type of the body -/
  contentType : Option String := none
  /-- the announced number of bytes -/
  contentLength : Option Int := none
  /-- the bytes of the body -/
  body : List UInt8 := []
  deriving DecidableEq, Repr

/-- The body of a response. -/
inductive Content where
  /-- a JSON document -/
  | json (v : Json)
  /-- a text of some type -/
  | text (mimetype : String) (text : String)

/-- A response. -/
structure Response where
  /-- the status -/
  status : Nat
  /-- the mark of the request -/
  requestId : String
  /-- the body -/
  content : Content

/-- The type of a body. -/
def Content.mimetype : Content → String
  | .json _ => "application/json"
  | .text mimetype _ => mimetype

/-! ## Headers -/

/-- The name of a header as it is compared: case and the kind of dash do not matter. -/
def headerKey (name : String) : List Char :=
  (Text.upper name.toList).map fun c => if c = '-' then '_' else c

/-- The value of a header; several are joined. -/
def Request.header? (r : Request) (name : String) : Option String :=
  match (r.headers.filter fun header => headerKey header.1 = headerKey name).map (·.2) with
  | [] => none
  | values => some (", ".intercalate values)

/-- How far the reading of a list in a header has come. -/
inductive ListMode where
  /-- outside of quotes -/
  | plain
  /-- between quotes -/
  | quoted
  /-- behind a backslash between quotes -/
  | escaped
  deriving DecidableEq, Repr

/-- The items of a list in a header, cut at the commas outside of quotes. `item` is what has been
read of the current one, last character first. There are none if a quote stays open. -/
def cutItems (mode : ListMode) (item : List Char) : List Char → List (List Char)
  | [] => if mode = .plain then [item.reverse] else []
  | c :: s =>
    match mode with
    | .escaped => cutItems .quoted (c :: item) s
    | .quoted =>
      if c = '\\' then cutItems .escaped item s
      else cutItems (if c = '"' then .plain else .quoted) (c :: item) s
    | .plain =>
      if c = ',' then
        match cutItems .plain [] s with
        | [] => []
        | items => item.reverse :: items
      else cutItems (if c = '"' then .quoted else .plain) (c :: item) s

/-- An item without the quotes around it. -/
def unquoteItem (item : List Char) : List Char :=
  match item, item.getLast? with
  | '"' :: c :: s, some '"' => (c :: s).dropLast
  | _, _ => item

/-- The items of a list in a header. -/
def listItems (s : List Char) : List (List Char) :=
  (cutItems .plain [] s).map fun item => unquoteItem (Text.trim item)

/-- The mark of a request: the one that it brings, or a new one. -/
def Request.id (r : Request) : String :=
  (r.header? "X-Request-ID").getD "ID"

/-! ## Places -/

/-- The method in capitals. -/
def Request.verb (r : Request) : String :=
  String.ofList (Text.upper r.method.toList)

/-- Where a request points. -/
def Request.address (r : Request) : Address :=
  (Address.ofText r.target.toList).unwrap

/-- The place that a request asks for, without slashes in front. -/
def Request.place (r : Request) : List Char :=
  (unescape r.address.path).dropWhile (· == '/')

/-- The scheme that a request uses. -/
def Request.scheme (r : Request) : List Char :=
  if r.address.scheme.isEmpty then "http".toList else r.address.scheme

/-- The host that a request is meant for: the one that a header names, else the one of the address,
else this one. -/
def Request.host (r : Request) : List Char :=
  let given :=
    match r.header? "Host" with
    | some host => host.toList
    | none =>
      if r.address.host.isEmpty then "localhost".toList else Host.ofAddress r.address.host
  Host.shown r.scheme given

/-- The address of a place at the host of a request, with the query of the request. -/
def Request.addressOf (r : Request) (place : List Char) : Address :=
  { scheme := r.scheme, host := r.host, path := '/' :: escape place, query := r.address.query }

/-- Does the request ask to go on in another protocol? -/
def Request.isUpgrade (r : Request) : Bool :=
  let value (name : String) := Text.lower ((r.header? name).getD "").toList
  ((value "Connection").splitOn ',').any (Text.trim · == "upgrade".toList) &&
    value "Upgrade" == "websocket".toList

/-! ## The JSON document of a body -/

/-- Does the type of a body say that it is JSON? Parameters and case do not matter. -/
def isJsonType (contentType : String) : Bool :=
  let bare := Text.lower (Text.trim (Text.splitFirst ';' contentType.toList).1)
  bare = "application/json".toList ||
    ("application/".toList.isPrefixOf bare && "+json".toList.isSuffixOf bare)

/-- Why the body of a request is refused. -/
inductive Rejection where
  /-- it is shorter than announced -/
  | cutShort
  /-- its values are nested too deep -/
  | tooDeep
  deriving DecidableEq, Repr

/-- Does the body come in chunks? Such a body is not read. -/
def Request.isChunked (r : Request) : Bool :=
  (listItems ((r.header? "Transfer-Encoding").getD "").toList).any fun item =>
    Text.lower item == "chunked".toList

/-- The number of bytes that a header announces. -/
def Request.headerLength? (r : Request) : Option Nat :=
  let digits := Text.trim ((r.header? "Content-Length").getD "").toList
  if !digits.isEmpty && digits.all Char.isDigit then some (Number.digitsValue digits) else none

/-- The announced number of bytes. What a header announces counts only when there is no body. -/
def Request.announced? (r : Request) : Option Nat :=
  match r.contentLength with
  | some n => some n.toNat
  | none => if r.body.isEmpty then r.headerLength? else none

/-- The bytes of a body that count, if there are as many as announced. -/
def Request.bytes (r : Request) : Except Rejection (List UInt8) :=
  if r.isChunked then .ok []
  else
    match r.announced? with
    | none => .ok r.body
    | some n => if r.body.length < n then .error .cutShort else .ok (r.body.take n)

/-- The document that some bytes spell; an empty object if they spell none, or a void one. -/
def documentOf (bytes : List UInt8) : Except Rejection Json :=
  match (Json.textOfBytes? bytes).map Json.read with
  | some (.ok v) => .ok (if v.isVoid then .obj [] else v)
  | some (.error (.tooDeep _)) => .error .tooDeep
  | _ => .ok (.obj [])

/-- The type of the body: the one that comes with it, else the one that a header names. -/
def Request.type? (r : Request) : Option String :=
  r.contentType.or (r.header? "Content-Type")

/-- The JSON document of a request. -/
def Request.document (r : Request) : Except Rejection Json :=
  if r.type?.any isJsonType then r.bytes.bind documentOf else .ok (.obj [])

end Web

end Docwright
