import IndexExplorer.Problem

/-!
Numbers that keep the form in which they were given: whole, or with a fraction.
-/
namespace IndexExplorer

/-- A number given as an integer or as a double. -/
inductive Amount where
  | whole (n : Int)
  | real (x : Float)

namespace Amount

/-- The amount as a JSON value. -/
def toJson : Amount → Json
  | .whole n => .int n
  | .real x => .float x

/-- The double nearest to an amount. -/
def toFloat : Amount → Float
  | .whole n => Number.ofInt n
  | .real x => x

end Amount

end IndexExplorer
