import IndexExplorer.Api.Body
import IndexExplorer.Api.Route
import IndexExplorer.Explorer
import IndexExplorer.FieldKind

/-!
Serving the HTTP interface: `serve` is the program that answers a call, sending whatever requests
the operation behind the route sends.
-/
namespace IndexExplorer.Api

/-- The source of credentials that a caller names. -/
def Caller.source (c : Caller) : KeySource :=
  let keys := c.keys.getD {}
  { mode := .str c.authMode.name
    profileName := .ofOption .str c.profile
    accessKey := .str keys.accessKey
    secretKey := .str keys.secretKey
    sessionToken := .ofOption .str keys.sessionToken
    region := .ofOption .str c.region }

/-- A field with the conditions that make sense for it. -/
def fieldJson (f : FieldDefinition) : Json := .obj [
  ("path", .str f.path),
  ("type", .ofOption .str f.type),
  ("operators", .arr ((FieldKind.ofType (f.type.getD "")).operators.map (.str ·.name)))]

/-- A list of collections, which says whether it is empty. -/
def collectionsJson (l : CollectionList) : Json := .obj [
  ("region", .str l.region),
  ("collections", .arr (l.collections.map (·.toJson))),
  ("empty", .bool l.isEmpty)]

/-- The answer to a forwarded request. -/
def forwardedJson (r : Reply) : Json := .obj [("status", .int r.status), ("data", r.data)]

/-- What is done with a body that is in order. -/
def withBody (c : Call) (rule : Rule α) (act : α → Operation β) (write : β → Answer) :
    Exchange Answer :=
  match c.read rule with
  | .error a => .done a
  | .ok b => (act b).map (Answer.ofResult write)

/-- The program that answers a call on a route. -/
def serveRoute (env : Environment) (c : Call) : Route → Exchange Answer
  | .health => .done (.record (.obj [("status", .str "ok")]))
  | .profiles =>
    .done (.record (.obj [("profiles", .arr ((Store.names env.files).map .str))]))
  | .discovery =>
    withBody c Caller.rule (fun b => Explorer.discover env b.source) fun l =>
      .record (collectionsJson l)
  | .compile =>
    withBody c SearchBody.rule (fun b => .ofResult (Query.compile b.filters b.connection)) fun q =>
      .recordWith (q.toJson.members?.getD []) q.toJson
  | .search =>
    withBody c SearchBody.rule (fun b => Explorer.search env b.connection b.filters) fun p =>
      .recordWith (p.hits.flatMap (·.source)) p.toJson
  | .mapping =>
    withBody c connectionRule (Explorer.mapping env) fun fs => .record (.arr (fs.map fieldJson))
  | .indices =>
    withBody c connectionRule (Explorer.indices env) fun is =>
      .record (.arr (is.map (·.toJson)))
  | .forward =>
    withBody c ForwardBody.rule
      (fun b => Explorer.forward env (.str b.url) (.str b.method) (.ofJson b.data) b.caller.source)
      fun r => .verbatim (forwardedJson r)

/-- The program that answers a call. -/
def serve (env : Environment) (c : Call) : Exchange Answer :=
  match Route.find c.method c.target with
  | .route r => serveRoute env c r
  | .wrongMethod => .done (.detail 405 (.str "Method Not Allowed"))
  | .moved => .done .elsewhere
  | .unknown => .done (.detail 404 (.str "Not Found"))

end IndexExplorer.Api
