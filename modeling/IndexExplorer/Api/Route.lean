import IndexExplorer.Text.Blank

/-!
Where the HTTP interface can be reached: its paths, and the one method of each.
-/
namespace IndexExplorer.Api

/-- What can be asked for. -/
inductive Route where
  | health | profiles | discovery | compile | search | mapping | indices | forward
deriving DecidableEq, Repr

namespace Route

/-- All routes. -/
def all : List Route :=
  [.health, .profiles, .discovery, .compile, .search, .mapping, .indices, .forward]

/-- The path of a route. -/
def path : Route → String
  | .health => "/health"
  | .profiles => "/api/aws-profiles"
  | .discovery => "/api/aws-discovery"
  | .compile => "/api/compile"
  | .search => "/api/search"
  | .mapping => "/api/mapping"
  | .indices => "/api/indices"
  | .forward => "/api/proxy"

/-- The method of a route. -/
def method : Route → String
  | .health | .profiles => "GET"
  | _ => "POST"

/-- The route of a path. -/
def ofPath? (path : String) : Option Route := all.find? (·.path = path)

theorem ofPath?_path (r : Route) : ofPath? r.path = some r := by
  cases r <;> decide

/-- The path of a target: without its query, as it is written. -/
def pathOf (target : String) : String := String.ofList (target.toList.takeWhile (· ≠ '?'))

/-- The route that a path reaches. A line end behind the path does not count. -/
def reached? (path : String) : Option Route :=
  let cs := path.toList
  ofPath? (if cs.getLast? = some '\n' then String.ofList cs.dropLast else path)

/-- The path without the slashes at its end. -/
def withoutSlash (path : String) : String :=
  String.ofList (Text.dropEndWhile (· = '/') path.toList)

/-- Where a target leads. -/
inductive Target where
  | route (r : Route)
  | wrongMethod
  /-- to a route, were it not for the slashes at its end -/
  | moved
  | unknown
deriving DecidableEq, Repr

/-- Where a target leads, asked for with a method, whose letter case counts. -/
def find (method target : String) : Target :=
  let path := pathOf target
  match reached? path with
  | some r => if r.method = method then .route r else .wrongMethod
  | none =>
    if path.endsWith "/" && (reached? (withoutSlash path)).isSome then .moved else .unknown

end Route

end IndexExplorer.Api
