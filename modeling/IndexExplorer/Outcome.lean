import IndexExplorer.Json.Encoding
import IndexExplorer.Request
import IndexExplorer.SendFault
import IndexExplorer.Text.Charset
import IndexExplorer.Text.Parameter

/-!
What comes of sending a request: a response, or trouble.
-/
namespace IndexExplorer

/-- A response with its content decoded. -/
structure Response where
  status : Int
  headers : Headers := []
  body : ByteArray := ByteArray.empty

/-- What comes of sending a request: a response, trouble on the way, or something that cannot be
taken for either. -/
inductive Outcome where
  | received (r : Response)
  | fault (f : SendFault)
  | unusable (p : Problem)

namespace Response

/-- The request was accepted. -/
def isSuccess (r : Response) : Bool := 200 ≤ r.status && r.status < 300

/-- The name of the character set that the response declares, if it declares one. A name that is
itself written in a character set is decoded first, when that is known. -/
def charsetName (r : Response) : Result (Option String) := do
  let types := r.headers.getAll "content-type"
  if types.isEmpty then return none
  match Text.Parameter.value? "charset" (", ".intercalate types) with
  | none => throw .wrongKind
  | some none => return none
  | some (some (.plain name)) => return some name
  | some (some (.coded charset bytes)) =>
    let set := (charset.filter (!·.isEmpty)).getD "us-ascii"
    if set.toList.contains '\x00' then throw (.badValue .embeddedNul)
    let read := (Text.Charset.ofName? set).bind fun c =>
      c.decodeStrict? (bytes.map fun b => UInt8.ofNat b.toNat)
    return some (read.getD (String.ofList bytes))

/-- The character set that the response declares; UTF-8 unless one that is known is named. -/
def charset (r : Response) : Result Text.Charset := do
  let name := ((← r.charsetName).filter fun n => n.toList.all Text.isAscii).getD ""
  if name.toList.contains '\x00' then throw (.badValue .embeddedNul)
  return (Text.Charset.ofName? name).getD .utf8

/-- The body as text; what cannot be decoded is replaced. -/
def text (r : Response) : Result String := do
  if r.body.isEmpty then return ""
  match (← r.charset).decode r.body with
  | .ok s => return s
  | .error .notBytes => throw .wrongKind
  | .error f => throw (.undecodable f)

/-- The body as a JSON value; any other is wrapped as its text. What is nested too deep to be read
is neither. -/
def data (r : Response) : Result Json :=
  match Json.ofBytes r.body with
  | .ok v => .ok v
  | .error .tooDeep => .error .tooDeep
  | .error _ => r.text.map fun s => .obj [("raw", .str s)]

end Response

end IndexExplorer
