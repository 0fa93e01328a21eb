import IndexExplorer.Amount
import IndexExplorer.Clock
import IndexExplorer.Json.Display
import IndexExplorer.Number.Binary64
import IndexExplorer.Random

/-!
Demo data: a fixed mapping, one index, and pages of made-up hits.

The hits are numbered from zero, and a page holds those from its offset on, as many as fit into the
whole.
-/
namespace IndexExplorer.Demo

/-- The name of the one index. -/
def index : String := "demo-index"

/-- The number of all hits. -/
def total : Int := 1250

/-- A field of a declared type. -/
def typed (type : String) : Json := .obj [("type", .str type)]

/-- The mapping of the index. -/
def mapping : Json := .obj [(index, .obj [("mappings", .obj [("properties", .obj [
  ("id", typed "keyword"),
  ("name", typed "text"),
  ("description", typed "text"),
  ("status", typed "keyword"),
  ("timestamp", typed "date"),
  ("location", typed "geo_point"),
  ("metadata", .obj [("properties", .obj [
    ("host", typed "keyword"),
    ("latency_ms", typed "integer"),
    ("tags", typed "keyword")])])])])])]

/-- The listing of indices. -/
def listing : Json := .arr [.obj [
  ("index", .str index),
  ("health", .str "green"),
  ("status", .str "open"),
  ("docs.count", .str (toString total)),
  ("store.size", .str "1.2mb")]]

/-- How many hits a page has. -/
def count (offset size : Int) : Nat := (min size (total - offset)).toNat

/-- The numbers of the hits of a page. -/
def numbers (offset size : Int) : List Int :=
  (List.range (count offset size)).map fun (i : Nat) => offset + (i : Int)

/-- What a hit says about itself. -/
def description (query label : String) : String :=
  if query.isEmpty then "System heartbeat log entry #" ++ label
  else "Result matching \"" ++ query ++ "\" - simulated log entry"

/-- A coordinate near `center`, to four places. -/
def near (center : Float) (r : Random) : Float × Random :=
  let (u, r) := r.unit
  (Number.roundPlaces (center + (u - 0.5)) 4, r)

/-- The id of a hit. -/
def idOf (label : String) : String := "doc-" ++ label

/-- A hit, with the random values in the order in which they stand in it. -/
def hit (query time label : String) (r : Random) : Json × Random :=
  let (lat, r) := near 34.05 r
  let (lon, r) := near (-118.25) r
  let (luck, r) := r.unit
  let (host, r) := r.below 255
  let (latency, r) := r.below 500
  (.obj [
    ("_index", .str index),
    ("_id", .str (idOf label)),
    ("_score", .float 1.0),
    ("_source", .obj [
      ("id", .str ("usr_" ++ label)),
      ("name", .str ("Service Log #" ++ label)),
      ("description", .str (description query label)),
      ("location", .obj [("lat", .float lat), ("lon", .float lon)]),
      ("status", .str (if luck > 0.8 then "ERROR" else "SUCCESS")),
      ("timestamp", .str time),
      ("metadata", .obj [
        ("host", .str ("ip-10-0-1-" ++ toString host)),
        ("latency_ms", .int latency),
        ("tags", .arr [.str "production", .str "aws", .str "serverless"])])])], r)

/-- The hits that have the given labels. -/
def hits (query time : String) : List String → Random → List Json
  | [], _ => []
  | label :: rest, r =>
    let (h, r) := hit query time label r
    h :: hits query time rest r

/-- The answer that holds hits, in the form in which the engine answers. -/
def answerOf (found : List Json) : Json := .obj [
  ("took", .int 12),
  ("timed_out", .bool false),
  ("hits", .obj [
    ("total", .obj [("value", .int total), ("relation", .str "eq")]),
    ("max_score", .float 1.0),
    ("hits", .arr found)])]

/-- The answer to a search. -/
def answer (seed : Int) (time : Int) (offset size : Int) (query : String) : Json :=
  answerOf (hits query (Moment.ofSeconds time).iso ((numbers offset size).map toString)
    (Random.ofSeed seed))

/-- A number given as any value: truth values count as one and zero. -/
def numberOf : Json → Result Amount
  | .int n => .ok (.whole n)
  | .bool b => .ok (.whole (if b then 1 else 0))
  | .float x => .ok (.real x)
  | _ => .error .wrongKind

/-- How many hits there are from an offset on. -/
def leftFrom : Amount → Amount
  | .whole offset => .whole (total - offset)
  | .real offset => .real (Number.ofInt total - offset)

/-- How many hits a page has when as many are left. A number with a fraction can say that there are
none, or more than are left, but not how many there are. -/
def countOf (size left : Amount) : Result Nat :=
  let least := if left.toFloat < size.toFloat then left else size
  match least with
  | .whole n => .ok n.toNat
  | .real x => if 0 < x then .error .wrongKind else .ok 0

/-- The label of a hit some places behind the offset. -/
def labelOf (offset : Amount) (place : Nat) : String :=
  match offset with
  | .whole n => toString (n + (place : Int))
  | .real x => Number.floatText (x + Number.ofInt place)

/-- The answer to a search whose offset, size and query are values of any kind. -/
def answerGiven (seed : Int) (time : Int) (offset size query : Json) : Result Json := do
  let offset ← numberOf offset
  let size ← numberOf size
  let count ← countOf size (leftFrom offset)
  let query := if query.given then query.shown else ""
  return answerOf (hits query (Moment.ofSeconds time).iso ((List.range count).map (labelOf offset))
    (Random.ofSeed seed))

end IndexExplorer.Demo
