import IndexExplorer.Api.Answer
import IndexExplorer.Connection
import IndexExplorer.Filter
import IndexExplorer.Json.Encoding
import IndexExplorer.Request

/-!
The bodies that the HTTP interface takes: JSON objects, checked field by field before anything is
done.
-/
namespace IndexExplorer.Api

/-- A request to the interface. -/
structure Call where
  method : String
  target : String
  contentType : String := "application/json"
  body : ByteArray := ByteArray.empty

namespace Call

/-- The body is declared to be JSON, in one of its forms. The declaration is read byte by byte, so
that a blank outside of ASCII is none. -/
def declaresJson (c : Call) : Bool :=
  let declared := c.contentType.toUTF8.toList.map fun b => Char.ofNat b.toNat
  let type := String.ofList (Text.trimWhile Text.isBlank (declared.takeWhile (· ≠ ';')))
  match Ip.splitAt '/' (Text.lowerAscii type).toList with
  | [main, sub] =>
    String.ofList main = "application" &&
      (String.ofList sub = "json" || "+json".toList.isSuffixOf sub)
  | _ => false

end Call

/-- The name of a kind of fault in a body: objects are read by their attributes there. -/
def faultName : FaultKind → String
  | .modelType => "model_attributes_type"
  | k => k.name

/-- A step of a path as it is reported. -/
def stepJson : PathStep → Json
  | .member n => .str n
  | .item i => .int i

/-- A fault of a body as it is reported. -/
def reported (type : String) (path : List PathStep) : Json :=
  .obj [("type", .str type), ("loc", .arr (.str "body" :: path.map stepJson))]

namespace Answer

/-- The answer to a body with faults, which shows the values that have them. -/
def unprocessable (fs : List Fault) : Answer :=
  if fs.all (·.found.withoutInternal.isFinite) then
    detail 422 (.arr (fs.map fun f => reported (faultName f.kind) f.path))
  else notWritable

/-- The answer to a body of which a single thing is wrong as a whole. -/
def badBody (type : String) : Answer := detail 422 (.arr [reported type []])

/-- The answer to a body that could not be read. -/
def unreadable : Answer := detail 400 (.str "There was an error parsing the body")

end Answer

/-- The checked body of a call, or the answer to a bad one. -/
def Call.read (c : Call) (rule : Rule α) : Except Answer α :=
  if c.body.isEmpty then .error (.badBody "missing")
  else if !c.declaresJson then .error (.badBody (faultName .modelType))
  else match Json.ofBytes c.body with
    | .error (.text .malformed) => .error (.badBody "json_invalid")
    | .error _ => .error .unreadable
    | .ok v =>
      match rule v with
      | .passed a => .ok a
      | .failed fs => .error (.unprocessable fs)

/-- What to search for, and where. -/
structure SearchBody where
  connection : Connection := {}
  filters : FilterState := {}

/-- A search as it is given. -/
def SearchBody.rule : Rule SearchBody := Rule.record fun ms =>
  SearchBody.mk <$> ms.field "connection" Connection.rule {}
    <*> ms.field "filters" FilterState.rule {}

/-- The connection alone, as it is given. -/
def connectionRule : Rule Connection := Rule.record fun ms =>
  ms.required "connection" Connection.rule

/-- Keys as a caller sends them; what is missing is empty. -/
structure GivenKeys where
  accessKey : String := ""
  secretKey : String := ""
  sessionToken : Option String := none
deriving DecidableEq, Repr

/-- Keys as they are given. -/
def GivenKeys.rule : Rule GivenKeys := Rule.record fun ms =>
  GivenKeys.mk <$> ms.field "access_key" Rule.text ""
    <*> ms.field "secret_key" Rule.text ""
    <*> ms.field "session_token" (Rule.optional Rule.text) none

/-- Whose credentials to use, and for which region. -/
structure Caller where
  region : Option String := none
  authMode : AuthMode := .profile
  profile : Option String := none
  keys : Option GivenKeys := none
deriving DecidableEq, Repr

namespace Caller

/-- The fields of a caller among those of a body. -/
def read (ms : Members) : Checked Caller :=
  Caller.mk <$> ms.field "region" (Rule.optional Rule.text) none
    <*> ms.field "auth_mode" (Rule.oneOf AuthMode.ofName?) .profile
    <*> ms.field "profile" (Rule.optional Rule.text) none
    <*> ms.field "credentials" (Rule.optional GivenKeys.rule) none

/-- A caller as it is given. -/
def rule : Rule Caller := Rule.record read

end Caller

/-- A request to forward. -/
structure ForwardBody where
  url : String
  method : String := "GET"
  data : Json := .null
  caller : Caller := {}

/-- A request to forward as it is given. -/
def ForwardBody.rule : Rule ForwardBody := Rule.record fun ms =>
  ForwardBody.mk <$> ms.required "url" Rule.text
    <*> ms.field "method" Rule.text "GET"
    <*> ms.field "data" Rule.anything .null
    <*> Caller.read ms

end IndexExplorer.Api
