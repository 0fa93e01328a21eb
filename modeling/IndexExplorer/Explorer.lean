import IndexExplorer.Demo
import IndexExplorer.Discovery
import IndexExplorer.IndexInfo
import IndexExplorer.Mapping
import IndexExplorer.Query.Basic
import IndexExplorer.SearchPage

/-!
The operations on an engine: searching, reading its mapping and indices, discovering collections,
and forwarding a request to any URL.
-/
namespace IndexExplorer

/-- A program whose result may be a problem. -/
abbrev Operation (α : Type) := Exchange (Result α)

namespace Operation

/-- The result, or the problem, of a computation that sends nothing. -/
def ofResult (r : Result α) : Operation α := .done r

/-- What a result is used for, unless there was a problem. -/
def andThen (x : Operation α) (f : α → Result β) : Operation β := x.map fun r => r >>= f

end Operation

namespace Explorer

/-- The seed of demo pages that nobody asks to be reproducible. -/
def demoSeed : Int := 0

/-- A page from an engine's answer to a search. -/
def pageOf (f : FilterState) (answer : Json) : Result SearchPage :=
  SearchPage.ofAnswer answer (.int f.offset) (.int f.size)

/-- A search. -/
def search (env : Environment) (c : Connection) (f : FilterState) : Operation SearchPage :=
  if c.demoMode then
    .ofResult (pageOf f (Demo.answer demoSeed env.time f.offset f.size f.query))
  else
    match Query.compile f c with
    | .error p => .done (.error p)
    | .ok q =>
      let call : Gateway.Call := {
        path := "/" ++ c.index ++ "/_search"
        method := .str "POST"
        content := .document q.toJson }
      Operation.andThen (Gateway.execute env c call) fun reply => pageOf f reply.data

/-- The leaf fields of the connection's index. -/
def mapping (env : Environment) (c : Connection) : Operation (List FieldDefinition) :=
  let fieldsOf := fun (answer name : Json) =>
    Mapping.properties answer name >>= fun p => Mapping.flatten p ""
  if c.demoMode then .ofResult (fieldsOf Demo.mapping .null)
  else
    Operation.andThen (Gateway.execute env c { path := "/" ++ c.index ++ "/_mapping" })
      fun reply => fieldsOf reply.data (.str c.index)

/-- The indices of the engine that are not hidden. -/
def indices (env : Environment) (c : Connection) : Operation (List IndexInfo) :=
  if c.demoMode then .ofResult (IndexInfo.ofListing Demo.listing false)
  else
    Operation.andThen (Gateway.execute env c { path := "/_cat/indices?format=json" }) fun reply =>
      IndexInfo.ofListing (match reply.data with | .arr rows => .arr rows | _ => .arr []) false

/-- The collections of a region, for the credentials of a source. -/
def discover (env : Environment) (source : KeySource) : Operation CollectionList :=
  let region := if source.region.given then source.region else .str defaultRegion
  match { source with region }.resolve env.files with
  | .error p => .done (.error p)
  | .ok none => .done (.error (StoreProblem.failure
      "No credentials provided; discovery requires a profile or static keys."))
  | .ok (some k) => Discovery.discover env region k .null

/-- The parts of the URL that a request is forwarded to, which has to be absolute. -/
def forwardParts (url : Json) : Result UrlParts :=
  let relative := .error (.badValue (.relativeUrl url.shownQuoted))
  match url with
  | .str s => do
    let parts ← UrlParts.split s
    if parts.scheme.isEmpty || parts.authority.isEmpty then relative else return parts
  | .arr _ | .obj _ => .error .wrongKind
  | v => if v.given then .error .noSuchPart else relative

/-- The path of a forwarded request with its query. -/
def forwardPath (p : UrlParts) : String :=
  (if p.path.isEmpty then "/" else p.path) ++ (if p.query.isEmpty then "" else "?" ++ p.query)

/-- The connection whose one node is the origin of a URL. -/
def forwardConnection (p : UrlParts) (source : KeySource) : Result Connection :=
  Checked.result (Connection.rule (.obj [
    ("nodes", .arr [.str (p.scheme ++ "://" ++ p.authority)]),
    ("region", if source.region.given then source.region else .str defaultRegion),
    ("auth_mode", source.mode),
    ("profile_name", source.profileName),
    ("access_key", source.accessKey),
    ("secret_key", source.secretKey),
    ("session_token", source.sessionToken)]))

/-- Sends a request to an absolute URL, with the credentials of a source. -/
def forward (env : Environment) (url method : Json) (content : Content) (source : KeySource) :
    Operation Reply :=
  match (do
    let p ← forwardParts url
    let c ← forwardConnection p source
    return (p, c) : Result (UrlParts × Connection)) with
  | .error e => .done (.error e)
  | .ok (p, c) => Gateway.execute env c { path := forwardPath p, method, content }

/-- The mode of given fields: a profile, unless they have one. -/
def modeOf (given : Members) : Json := (given.get? "auth_mode").getD (.str AuthMode.profile.name)

/-- The collections of a region, for given fields. -/
def discoverGiven (env : Environment) (given : Members) : Operation CollectionList :=
  if given.hasNames [] ("auth_mode" :: KeySource.fieldNames) then
    discover env (.ofGiven (modeOf given) given)
  else .done (.error .wrongKind)

/-- Sends a request for given fields, of which the URL has to be there. -/
def forwardGiven (env : Environment) (given : Members) (content : Content) : Operation Reply :=
  if given.hasNames ["url"] ("method" :: "body" :: "auth_mode" :: KeySource.fieldNames) then
    forward env (given.getOrNull "url") ((given.get? "method").getD (.str "GET")) content
      (.ofGiven (modeOf given) given)
  else .done (.error .wrongKind)

end Explorer

end IndexExplorer
