import IndexExplorer.Check

/-!
Collections of the serverless service.
-/
namespace IndexExplorer

/-- A collection of the serverless service. -/
structure Collection where
  name : String
  id : String
  endpoint : String
deriving DecidableEq, Repr

namespace Collection

/-- A collection as it is given. -/
def rule : Rule Collection := Rule.record fun ms =>
  Collection.mk <$> ms.required "name" Rule.text <*> ms.required "id" Rule.text
    <*> ms.required "endpoint" Rule.text

/-- All fields of a collection. -/
def toJson (c : Collection) : Json := .obj [
  ("name", .str c.name), ("id", .str c.id), ("endpoint", .str c.endpoint)]

end Collection

/-- The collections of a region. -/
structure CollectionList where
  region : String
  collections : List Collection := []
deriving DecidableEq, Repr

namespace CollectionList

/-- A list as it is given. -/
def rule : Rule CollectionList := Rule.record fun ms =>
  CollectionList.mk <$> ms.required "region" Rule.text
    <*> ms.field "collections" (Rule.listOf Collection.rule) []

/-- All fields of a list. -/
def toJson (l : CollectionList) : Json := .obj [
  ("region", .str l.region), ("collections", .arr (l.collections.map (·.toJson)))]

/-- There is no collection. -/
def isEmpty (l : CollectionList) : Bool := l.collections.isEmpty

end CollectionList

end IndexExplorer
