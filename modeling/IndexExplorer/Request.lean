import IndexExplorer.Headers
import IndexExplorer.Json.Writer
import IndexExplorer.Text.Base64
import IndexExplorer.Url.Basic

/-!
Requests as they are built and as they go out.
-/
namespace IndexExplorer

/-- A request. `timeout` is in seconds, in the form in which it was given. -/
structure Request where
  method : String
  url : Url
  headers : Headers
  body : ByteArray
  timeout : Option Json := none

/-- What a caller gives as the body of a request. -/
inductive Content where
  | none
  | document (v : Json)
  | text (s : String)
  | bytes (b : ByteArray)

namespace Content

/-- The content that a JSON value stands for: objects and lists are sent as documents, texts as
they are, and nothing else is sent. -/
def ofJson : Json → Content
  | .obj ms => .document (.obj ms)
  | .arr vs => .document (.arr vs)
  | .str s => .text s
  | _ => .none

/-- The bytes to send. -/
def toBytes : Content → ByteArray
  | .none => ByteArray.empty
  | .document v => v.bytes
  | .text s => s.toUTF8
  | .bytes b => b

/-- Whether the content can be written: a document is not nested too deep for that. -/
def fits : Content → Bool
  | .document v => v.nesting ≤ Json.nestingLimit
  | _ => true

/-- Documents and texts are declared to be JSON. -/
def isJson : Content → Bool
  | .document _ | .text _ => true
  | _ => false

end Content

namespace Request

/-- How long an attempt may take, in seconds: what is given, unless it is null. -/
def timeoutOf (given : Json) : Json :=
  match given with
  | .null => .float 30.0
  | v => v

/-- Methods whose requests tell their length even without a body. -/
def expectsBody (method : String) : Bool := ["POST", "PUT", "PATCH"].contains method

/-- The headers of a request: those given, behind the host and the length if they are missing. -/
def withImplied (method : String) (url : Url) (body : ByteArray) (given : Headers) : Headers :=
  let given :=
    if body.isEmpty then given else given.setDefault "content-length" (toString body.size)
  let host : Headers :=
    if !given.has "host" && !url.host.isEmpty then [("host", url.hostPort)] else []
  let length : Headers :=
    if !given.has "content-length" && !given.has "transfer-encoding" && expectsBody method then
      [("content-length", "0")]
    else []
  host ++ length ++ given

/-- A request to a URL given as text. Of a bad URL and bad header fields the URL is told. -/
def make (method url : String) (fields : Members) (body : ByteArray) (timeout : Option Json) :
    Result Request :=
  match Url.read url with
  | .error _ => .error .badUrl
  | .ok u =>
    (Headers.ofGiven fields).map fun given =>
      let method := Text.upper method
      { method, url := u, headers := withImplied method u body given, body, timeout }

/-- A request whose method and URL may be values of any kind; of two that are no texts the method
is told. -/
def makeGiven (method url : Json) (fields : Members) (body : ByteArray) (timeout : Option Json) :
    Result Request :=
  match method, url with
  | .str m, .str u => make m u fields body timeout
  | .str _, _ => .error .wrongKind
  | _, _ => .error .noSuchPart

/-- A request with content that can be written. A JSON content type is added unless the given fields
have exactly the name `content-type`. -/
def build (method url : Json) (content : Content) (fields timeout : Json) : Result Request := do
  let fields ← Headers.fieldsOf fields
  let declared : Members := if content.isJson && !fields.has "content-type" then
      [("content-type", .str "application/json")]
    else []
  if content.fits then
    makeGiven method url (fields ++ declared) content.toBytes (some (timeoutOf timeout))
  else .error .tooDeep

/-- The value that authenticates a user by name and password. -/
def basicValue (name password : String) : String :=
  "Basic " ++ Text.Base64.encode (name ++ ":" ++ password).toUTF8

/-- The request as it goes out: the user in its URL, if any, is put into the header that
authenticates. -/
def outgoing (r : Request) : Request :=
  let (name, password) := r.url.credentials
  if name.isEmpty && password.isEmpty then r
  else { r with headers := r.headers.assign "authorization" (basicValue name password) }

end Request

end IndexExplorer
