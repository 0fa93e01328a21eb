import IndexExplorer.Check

/-!
What a node answered, when it accepted the request.
-/
namespace IndexExplorer

/-- What a node answered, when it accepted the request. -/
structure Reply where
  status : Int
  data : Json := .null
  node : String

namespace Reply

/-- An answer as it is given. -/
def rule : Rule Reply := Rule.record fun ms =>
  Reply.mk <$> ms.required "status" Rule.integer <*> ms.field "data" Rule.anything .null
    <*> ms.required "node" Rule.text

/-- All fields of an answer. -/
def toJson (r : Reply) : Json := .obj [
  ("status", .int r.status), ("data", r.data), ("node", .str r.node)]

end Reply

end IndexExplorer
