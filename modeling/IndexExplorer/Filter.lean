import IndexExplorer.Amount

/-!
What a user searches for: free text, a circle on the map, conditions on fields, and which page of
the results is wanted.
-/
namespace IndexExplorer

/-- What a field condition asks of a value. -/
inductive Operator where
  | eq | neq | contains | gt | gte | lt | lte | exist
deriving DecidableEq, Repr

namespace Operator

/-- The name of an operator. -/
def name : Operator → String
  | .eq => "eq"
  | .neq => "neq"
  | .contains => "contains"
  | .gt => "gt"
  | .gte => "gte"
  | .lt => "lt"
  | .lte => "lte"
  | .exist => "exists"

/-- All operators. -/
def all : List Operator := [.eq, .neq, .contains, .gt, .gte, .lt, .lte, .exist]

/-- The operator of a name. -/
def ofName? (s : String) : Option Operator := all.find? (·.name = s)

theorem ofName?_name (o : Operator) : ofName? o.name = some o := by
  cases o <;> decide

end Operator

/-- The unit of a distance. -/
inductive DistanceUnit where
  | km
  | mi
deriving DecidableEq, Repr

namespace DistanceUnit

/-- The name of a unit. -/
def name : DistanceUnit → String
  | .km => "km"
  | .mi => "mi"

/-- The unit of a name. -/
def ofName? (s : String) : Option DistanceUnit := [DistanceUnit.km, .mi].find? (·.name = s)

theorem ofName?_name (u : DistanceUnit) : ofName? u.name = some u := by
  cases u <;> decide

end DistanceUnit

/-- A circle around a point. Its own field counts before that of the connection. -/
structure GeoFilter where
  enabled : Bool := false
  latitude : Float := 34.0522
  longitude : Float := -118.2437
  radius : Amount := .whole 50
  unit : DistanceUnit := .km
  geoField : Option String := none

namespace GeoFilter

/-- A circle as it is given. -/
def rule : Rule GeoFilter := Rule.record fun ms =>
  GeoFilter.mk <$> ms.field "enabled" Rule.flag false
    <*> ms.field "latitude" Rule.float 34.0522
    <*> ms.field "longitude" Rule.float (-118.2437)
    <*> ms.field "radius" (fun v => (Rule.float v).map .real) (.whole 50)
    <*> ms.field "unit" (Rule.oneOf DistanceUnit.ofName?) .km
    <*> ms.field "geo_field" (Rule.optional Rule.text) none

/-- All fields of a circle. -/
def toJson (g : GeoFilter) : Json := .obj [
  ("enabled", .bool g.enabled),
  ("latitude", .float g.latitude),
  ("longitude", .float g.longitude),
  ("radius", g.radius.toJson),
  ("unit", .str g.unit.name),
  ("geo_field", .ofOption .str g.geoField)]

end GeoFilter

/-- A condition on one field; the value is text as the user typed it. -/
structure FieldFilter where
  id : String
  field : String
  operator : Operator
  value : String := ""
deriving DecidableEq, Repr

namespace FieldFilter

/-- A condition as it is given. -/
def rule : Rule FieldFilter := Rule.record fun ms =>
  FieldFilter.mk <$> ms.required "id" Rule.text
    <*> ms.required "field" Rule.text
    <*> ms.required "operator" (Rule.oneOf Operator.ofName?)
    <*> ms.field "value" Rule.text ""

/-- All fields of a condition. -/
def toJson (f : FieldFilter) : Json := .obj [
  ("id", .str f.id),
  ("field", .str f.field),
  ("operator", .str f.operator.name),
  ("value", .str f.value)]

end FieldFilter

/-- A search: text, circle, conditions, and the page from `offset` with `size` hits. -/
structure FilterState where
  query : String := ""
  geo : GeoFilter := {}
  fieldFilters : List FieldFilter := []
  offset : Int := 0
  size : Int := 20

namespace FilterState

/-- A search as it is given; two fields have a second name. -/
def rule : Rule FilterState := Rule.record fun ms =>
  FilterState.mk <$> ms.field "query" Rule.text ""
    <*> ms.field "geo" GeoFilter.rule {}
    <*> ms.aliased "fieldFilters" "field_filters" (Rule.listOf FieldFilter.rule) []
    <*> ms.aliased "from" "offset" Rule.integer 0
    <*> ms.field "size" Rule.integer 20

/-- All fields of a search, under their first or second names. -/
def toJson (firstNames : Bool) (f : FilterState) : Json := .obj [
  ("query", .str f.query),
  ("geo", f.geo.toJson),
  (if firstNames then "fieldFilters" else "field_filters", .arr (f.fieldFilters.map (·.toJson))),
  (if firstNames then "from" else "offset", .int f.offset),
  ("size", .int f.size)]

end FilterState

end IndexExplorer
