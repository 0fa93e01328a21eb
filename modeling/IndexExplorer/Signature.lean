import IndexExplorer.Clock
import IndexExplorer.Digest.Basic
import IndexExplorer.CredentialSet
import IndexExplorer.Request

/-!
Signing requests with an access key, in the scheme `AWS4-HMAC-SHA256`.

The headers to sign are those of the request without the ones that the transport manages, and the
ones that signing itself adds. `canonicalRequest` writes a request in the one form that both sides
hash, and the signature is a keyed hash of that hash and of its scope.
-/
namespace IndexExplorer.Signature

/-- Headers that the transport manages; they are kept and not signed. -/
def transportHeaders : List String :=
  ["content-length", "accept-encoding", "connection", "user-agent", "accept"]

/-- Further headers that are not signed. -/
def excludedHeaders : List String :=
  ["baggage", "connection", "expect", "keep-alive", "proxy-authenticate", "proxy-authorization",
   "te", "traceparent", "tracestate", "trailer", "transfer-encoding", "upgrade", "user-agent",
   "x-amzn-trace-id"]

/-- The header of the hash of the body. -/
def hashHeader : String := "x-amz-content-sha256"

/-- What a signature is made for, besides the request. -/
structure Purpose where
  credentials : CredentialSet
  region : String
  service : String
  /-- seconds since 1970 -/
  time : Int

/-- The moment of signing, as text. -/
def Purpose.moment (p : Purpose) : String := (Moment.ofSeconds p.time).compact

/-- The day of signing: the first eight characters of the moment. -/
def Purpose.day (p : Purpose) : String := String.ofList (p.moment.toList.take 8)

/-- Day, region and service, within which a key is valid. -/
def Purpose.scope (p : Purpose) : String :=
  p.day ++ "/" ++ p.region ++ "/" ++ p.service ++ "/aws4_request"

/-- The path as the engine's side computes it: dot segments and empty segments are dropped, and
what is left is percent-encoded once more. -/
def canonicalPath (path : String) : String :=
  let cs := path.toList
  let step := fun (out : List (List Char)) (part : List Char) =>
    if part.isEmpty || part = ['.'] then out
    else if part = ['.', '.'] then out.dropLast
    else out ++ [part]
  let parts := (Ip.splitAt '/' cs).foldl step []
  let front := if cs.head? = some '/' then ['/'] else []
  let back := if cs.getLast? = some '/' && !parts.isEmpty then ['/'] else []
  let kept := fun c => Text.Percent.isUnreserved c || c = '/'
  if cs.isEmpty then "/"
  else Text.Percent.encode kept (String.ofList (front ++ ['/'].intercalate parts ++ back))

/-- The order of texts by their characters. -/
def pairLe (a b : String × String) : Bool := a.1 < b.1 || (a.1 = b.1 && !(b.2 < a.2))

/-- A name and value of a query; the value is empty without an equals sign. -/
def queryPair (cs : List Char) : String × String :=
  let (name, value) := UrlParts.cutAt '=' cs
  (String.ofList name, String.ofList value)

/-- The pairs of a query in order of name and value, as they are written. -/
def canonicalQuery (query : String) : String :=
  if query.isEmpty then ""
  else
    let pairs := ((Ip.splitAt '&' query.toList).map queryPair).mergeSort pairLe
    "&".intercalate (pairs.map fun (n, v) => n ++ "=" ++ v)

/-- The text without blanks at its ends, and one space for each run of blanks inside. -/
def squeezed (s : String) : String :=
  let words := (s.toList.splitBy fun a b => Text.isBlank a == Text.isBlank b).filter
    fun w => !w.any Text.isBlank
  " ".intercalate (words.map String.ofList)

/-- The headers of a request that take part in signing, before signing adds its own: those that
the transport does not manage, one field for each name. -/
def ownHeaders (r : Request) : Headers :=
  (r.headers.joined).filter fun (n, _) => !transportHeaders.contains n

/-- The headers with the date of signing: in a date header when there is one, for which the text of
the moment is read again, else in the one that signing adds. -/
def dated (h : Headers) (moment : String) : Result Headers :=
  if h.has "date" then
    match Moment.ofCompact moment with
    | .ok m => .ok ((h.erase "date" ++ [("date", m.mail)]).erase "x-amz-date")
    | .error .malformed => .error (.badValue (.notMoment moment))
    | .error .noSuchDay => .error (.badValue .noSuchDay)
  else .ok (h.erase "x-amz-date" ++ [("x-amz-date", moment)])

/-- The headers with the token of temporary credentials. -/
def tokened (h : Headers) (token : Option String) : Headers :=
  match token.filter (!·.isEmpty) with
  | some t => h.erase "x-amz-security-token" ++ [("x-amz-security-token", t)]
  | none => h

/-- All headers that signing works on. -/
def workingHeaders (d : Digest) (p : Purpose) (hashBody : Bool) (r : Request) : Result Headers :=
  let own := ownHeaders r
  let hashed := if hashBody then own ++ [(hashHeader, d.hashText r.body)] else own
  (dated (hashed.erase "authorization") p.moment).map (tokened · p.credentials.sessionToken)

/-- The headers that are signed, before a missing host is put among them. -/
def signedOnes (h : Headers) : Headers := h.filter fun (n, _) => !excludedHeaders.contains n

/-- The names of headers in order, each once. -/
def sortedNames (h : Headers) : List String :=
  (h.map (·.1)).eraseDups.mergeSort fun a b => !(b < a)

/-- The names of the signed headers, each trimmed, in order. -/
def nameList (h : Headers) : String :=
  ";".intercalate (((h.map fun (n, _) => Text.trim n).eraseDups).mergeSort fun a b => !(b < a))

/-- The line of a header: its values without superfluous blanks, and commas between them. -/
def headerLine (h : Headers) (name : String) : String :=
  name ++ ":" ++ ",".intercalate ((h.getAll name).map squeezed)

/-- The form of a request that both sides hash. -/
def canonicalRequest (method : String) (url : UrlParts) (signed : Headers) (bodyHash : String) :
    String :=
  "\n".intercalate ([method, canonicalPath url.path, canonicalQuery url.query] ++
    (sortedNames signed).map (headerLine signed) ++ ["", nameList signed, bodyHash])

/-- What the keyed hash is taken of. -/
def textToSign (d : Digest) (moment scope canonical : String) : String :=
  "\n".intercalate ["AWS4-HMAC-SHA256", moment, scope, d.hashText canonical.toUTF8]

/-- The key of a day, region and service. -/
def signingKey (d : Digest) (secret date region service : String) : ByteArray :=
  let key := d.keyed ("AWS4" ++ secret).toUTF8 date.toUTF8
  d.keyed (d.keyed (d.keyed key region.toUTF8) service.toUTF8) "aws4_request".toUTF8

/-- The signature of a canonical request. -/
def signatureOf (d : Digest) (p : Purpose) (canonical : String) : String :=
  let key := signingKey d p.credentials.secretKey p.day p.region p.service
  Digest.hexText (d.keyed key (textToSign d p.moment p.scope canonical).toUTF8)

/-- The value of the header that authenticates. -/
def authorization (p : Purpose) (names signature : String) : String :=
  "AWS4-HMAC-SHA256 Credential=" ++ p.credentials.accessKey ++ "/" ++ p.scope ++
    ", SignedHeaders=" ++ names ++ ", Signature=" ++ signature

/-- An address that stands in brackets: its zone, if it has one, is made of plain characters. -/
def isBracketed (name : List Char) : Bool :=
  Ip.isV6 name && (name.dropWhile (· ≠ '%')).all fun c =>
    c = '%' || c = '!' || Text.Percent.isUnreserved c

/-- The host that is signed when no header names it: that of the URL as it is written, with its port
unless that is the usual one. In the place of a missing host a word stands in front of the port;
with no port to tell there is nothing to sign. -/
def hostOf (url : UrlParts) : Result String := do
  let name := url.lowerHost
  let port ← url.port?
  let shownPort := port.filter fun n => [("http", 80), ("https", 443)].lookup url.scheme ≠ some n
  if name.isEmpty then
    match shownPort with
    | some n => return "None:" ++ toString n
    | none => throw .noSuchPart
  let host := if isBracketed name.toList then "[" ++ name ++ "]" else name
  return match shownPort with
    | some n => host ++ ":" ++ toString n
    | none => host

/-- The headers to sign, among them a host. -/
def withHost (url : UrlParts) (signed : Headers) : Result Headers :=
  if signed.has "host" then .ok signed
  else (hostOf url).map fun host => signed ++ [("host", host)]

/-- The signed request. Its headers are those of the request, with the ones that signing worked on
written over them. What is signed of the URL are its parts as they are written. -/
def sign (d : Digest) (p : Purpose) (hashBody : Bool) (r : Request) : Result Request := do
  let working ← workingHeaders d p hashBody r
  let url ← UrlParts.split r.url.text
  let signed ← withHost url (signedOnes working)
  let bodyHash := (working.get? hashHeader).getD (d.hashText r.body)
  let canonical := canonicalRequest r.method url signed bodyHash
  let value := authorization p (nameList signed) (signatureOf d p canonical)
  return { r with headers := r.headers.assignAll (working ++ [("authorization", value)]) }

/-- The request signed for a region and a service given as values of any kind. Only texts make a
scope. -/
def signGiven (d : Digest) (k : CredentialSet) (region service : Json) (time : Int)
    (hashBody : Bool) (r : Request) : Result Request := do
  let signed ← sign d ⟨k, region.shown, service.shown, time⟩ hashBody r
  match region, service with
  | .str _, .str _ => return signed
  | _, _ => throw .wrongKind

end IndexExplorer.Signature
