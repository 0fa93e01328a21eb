import IndexExplorer.Outcome
import IndexExplorer.Url.Join

/-!
Responses that lead to another address. Nobody follows them, but where they lead has to be an
address: a response that leads nowhere is no answer.

The URL of the request itself is looked at as well when a response has come, since cookies are
kept under it: it has to name a type of address.
-/
namespace IndexExplorer.Redirect

/-- The statuses of responses that lead to another address. -/
def statuses : List Int := [301, 302, 303, 307, 308]

/-- Where a response leads, as it is written. -/
def location? (r : Response) : Option String :=
  let values := r.headers.getAll "location"
  if statuses.contains r.status && !values.isEmpty then some (", ".intercalate values) else none

/-- What is written, seen from the URL of the request. A host that is missing behind a scheme is
that of the request, and so is a fragment. -/
def target (base written : Url) : Result Url := do
  let hosted ←
    if !written.scheme.isEmpty && written.host.isEmpty then
      match written.withHost base.host with
      | .ok u => pure u
      | .error _ => throw .badUrl
    else pure written
  let whole ←
    if hosted.scheme.isEmpty || hosted.host.isEmpty then base.join hosted else pure hosted
  if !base.place.isEmpty && whole.place.isEmpty then
    if base.place.toList.any Url.isControl then throw .badUrl
    return { whole with fragment := base.fragment }
  return whole

/-- A response that has come to a request for a URL, unless it leads nowhere. -/
def check (base : Url) (r : Response) : Outcome :=
  match location? r with
  | none => .received r
  | some text =>
    match Url.read text with
    | .error f =>
      .fault ⟨.remoteProtocolError, "Invalid URL in location header: " ++ f.message ++ "."⟩
    | .ok written =>
      match target base written with
      | .ok _ => .received r
      | .error p => .unusable p

/-- The text of a URL without a number sign at its end, and the part of it in front of the last
number sign. -/
def marked (text : List Char) : List Char × List Char :=
  if text.contains '#' then
    let place := UrlParts.afterLast '#' text
    let front := text.take (text.length - place.length - 1)
    (if place.isEmpty then front else text, front)
  else (text, text)

/-- Why cookies cannot be kept under a URL, if they cannot: it has to have a type, and an authority
that is well formed. -/
def cookieFault? (url : Url) : Option Problem :=
  let (shown, front) := marked url.text.toList
  let shown := String.ofList shown
  let (type, rest) := UrlParts.before (fun c => c = '/' || c = ':') front
  if type.isEmpty || rest.head? ≠ some ':' then
    some (.badValue (.address ("unknown url type: " ++ Text.quoted shown)))
  else
    match UrlParts.split shown with
    | .ok _ => none
    | .error p => some p

/-- What a response to a request for a URL comes to. -/
def settle (url : Url) (r : Response) : Outcome :=
  match cookieFault? url with
  | some p => .unusable p
  | none => check url r

end IndexExplorer.Redirect
