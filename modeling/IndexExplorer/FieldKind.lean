import IndexExplorer.Filter
import IndexExplorer.Text.Lower

/-!
Kinds of fields, and the conditions that make sense for each.
-/
namespace IndexExplorer

/-- A kind of field. -/
inductive FieldKind where
  | string | number | boolean | date | geo | object | array | unknown
deriving DecidableEq, Repr

namespace FieldKind

/-- The name of a kind. -/
def name : FieldKind → String
  | .string => "string"
  | .number => "number"
  | .boolean => "boolean"
  | .date => "date"
  | .geo => "geo"
  | .object => "object"
  | .array => "array"
  | .unknown => "unknown"

/-- The types that mappings declare, each with its kind. -/
def ofDeclared : List (String × FieldKind) := [
  ("text", .string), ("match_only_text", .string), ("keyword", .string),
  ("constant_keyword", .string), ("wildcard", .string), ("integer", .number), ("long", .number),
  ("short", .number), ("byte", .number), ("double", .number), ("float", .number),
  ("half_float", .number), ("scaled_float", .number), ("unsigned_long", .number),
  ("boolean", .boolean), ("date", .date), ("date_nanos", .date), ("ip", .string),
  ("geo_point", .geo), ("geo_shape", .geo), ("object", .object), ("nested", .array)]

/-- The kind of a declared type in any letter case. -/
def ofType (type : String) : FieldKind := (ofDeclared.lookup (Text.lower type)).getD .unknown

/-- The kind of a declared type given as any value: nothing given is unknown. -/
def ofValue (type : Json) : Result FieldKind :=
  if !type.given then .ok .unknown
  else match type with
    | .str s => .ok (ofType s)
    | _ => .error .noSuchPart

/-- The conditions that make sense for a kind; all of them where nothing is known. -/
def operators : FieldKind → List Operator
  | .string => [.eq, .neq, .contains, .exist]
  | .number | .date => [.eq, .neq, .gt, .gte, .lt, .lte, .exist]
  | .boolean => [.eq, .neq, .exist]
  | .geo => [.exist]
  | .object | .array | .unknown => Operator.all

end FieldKind

end IndexExplorer
