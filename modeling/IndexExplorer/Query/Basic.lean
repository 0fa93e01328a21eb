import IndexExplorer.Connection
import IndexExplorer.Query.Distance
import IndexExplorer.Filter
import IndexExplorer.Query.Literal

/-!
The query document of a search.

`compile` puts one clause for the text, one for the circle if there is one, and one for each field
condition into the three lists of a boolean query, in the order of the conditions.
-/
namespace IndexExplorer

/-- A leaf of a query. -/
inductive Clause where
  | matchAll
  | multiMatch (query : String) (fields : List String)
  | geoDistance (distance : String) (field : String) (latitude longitude : Float)
  | phrase (field : String) (value : Literal)
  | wildcard (field pattern : String)
  | range (field : String) (operator : Operator) (bound : Literal)
  | present (field : String)

namespace Clause

/-- An object with a single member. -/
def single (name : String) (v : Json) : Json := .obj [(name, v)]

/-- A clause as the engine reads it. In the clause of a circle the field's member is written after
the distance. -/
def toJson : Clause → Json
  | .matchAll => single "match_all" (.obj [])
  | .multiMatch q fields =>
    single "multi_match" (.obj [("query", .str q), ("fields", .arr (fields.map .str))])
  | .geoDistance d field lat lon =>
    single "geo_distance" (.obj (Named.ofList
      [("distance", .str d), (field, .obj [("lat", .float lat), ("lon", .float lon)])]))
  | .phrase field v => single "match_phrase" (single field v.toJson)
  | .wildcard field p =>
    single "wildcard" (single field (.obj [("value", .str p), ("case_insensitive", .bool true)]))
  | .range field op b => single "range" (single field (single op.name b.toJson))
  | .present field => single "exists" (single "field" (.str field))

end Clause

/-- The three lists of a boolean query: a document has to satisfy all clauses of the first two and
none of the third. -/
structure Buckets where
  must : List Clause := []
  filter : List Clause := []
  mustNot : List Clause := []

namespace Buckets

/-- The clauses of both, list by list. -/
def append (a b : Buckets) : Buckets :=
  ⟨a.must ++ b.must, a.filter ++ b.filter, a.mustNot ++ b.mustNot⟩

theorem empty_append (b : Buckets) : append {} b = b := by simp [append]

theorem append_empty (b : Buckets) : b.append {} = b := by simp [append]

theorem append_assoc (a b c : Buckets) : (a.append b).append c = a.append (b.append c) := by
  simp [append, List.append_assoc]

end Buckets

/-- A compiled search. -/
structure Query where
  offset : Int
  size : Int
  buckets : Buckets

namespace Query

/-- The clause of the free text: a blank text matches everything. -/
def textClause (query : String) (fields : List String) : Clause :=
  if Text.blank query then .matchAll else .multiMatch query fields

/-- The field of the circle: its own, else that of the connection, else `location`. -/
def geoField (g : GeoFilter) (c : Connection) : String :=
  match g.geoField.filter (!·.isEmpty) with
  | some f => f
  | none => if c.geoField.isEmpty then "location" else c.geoField

/-- The clause of the circle. -/
def geoClause (g : GeoFilter) (c : Connection) : Clause :=
  .geoDistance (Distance.text g.radius g.unit.name) (geoField g c) g.latitude g.longitude

/-- The one clause of a field condition, in its list. -/
def ofFieldFilter (f : FieldFilter) : Result Buckets := do
  let value ← Literal.ofText f.value
  return match f.operator with
    | .eq => { must := [.phrase f.field value] }
    | .neq => { mustNot := [.phrase f.field value] }
    | .contains => { must := [.wildcard f.field ("*" ++ f.value ++ "*")] }
    | .gt | .gte | .lt | .lte => { filter := [.range f.field f.operator value] }
    | .exist => { filter := [.present f.field] }

/-- The clauses of the field conditions. -/
def ofFieldFilters : List FieldFilter → Result Buckets
  | [] => .ok {}
  | f :: fs => do
    let first ← ofFieldFilter f
    let rest ← ofFieldFilters fs
    return first.append rest

/-- The query of a search. -/
def compile (f : FilterState) (c : Connection) : Result Query := do
  let conditions ← ofFieldFilters f.fieldFilters
  let text : Buckets := { must := [textClause f.query c.textFields] }
  let geo : Buckets := if f.geo.enabled then { filter := [geoClause f.geo c] } else {}
  return ⟨f.offset, f.size, (text.append geo).append conditions⟩

/-- The query as the engine reads it: best hits first, ties in the order of the index. -/
def toJson (q : Query) : Json := .obj [
  ("from", .int q.offset),
  ("size", .int q.size),
  ("query", .obj [("bool", .obj [
    ("must", .arr (q.buckets.must.map (·.toJson))),
    ("filter", .arr (q.buckets.filter.map (·.toJson))),
    ("must_not", .arr (q.buckets.mustNot.map (·.toJson)))])]),
  ("sort", .arr [
    .obj [("_score", .obj [("order", .str "desc")])],
    .obj [("_doc", .obj [("order", .str "asc")])]])]

end Query

end IndexExplorer
