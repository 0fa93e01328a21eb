import IndexExplorer.Named

/-!
JSON values. Integers have any size and are kept apart from doubles; the members of an object
keep their order, and no two have one name.
-/
namespace IndexExplorer

/-- A JSON value. -/
inductive Json where
  | null
  | bool (b : Bool)
  | int (n : Int)
  | float (x : Float)
  | str (s : String)
  | arr (items : List Json)
  | obj (members : List (String × Json))
deriving Inhabited

/-- The members of an object, in order. -/
abbrev Members := Named Json

namespace Members

/-- The value of a member; null when it is missing. -/
def getOrNull (ms : Members) (name : String) : Json := (ms.get? name).getD .null

end Members

namespace Json

/-- A value counts as given unless it is null, false, zero or empty. -/
def given : Json → Bool
  | .null => false
  | .bool b => b
  | .int n => n != 0
  | .float x => x != 0
  | .str s => !s.isEmpty
  | .arr items => !items.isEmpty
  | .obj members => !members.isEmpty

/-- The members of an object. -/
def members? : Json → Option Members
  | .obj ms => some ms
  | _ => none

/-- A text, when there is one. -/
def ofOption (toJson : α → Json) : Option α → Json
  | none => .null
  | some a => toJson a

mutual

/-- How many lists and objects stand inside each other. -/
def nesting : Json → Nat
  | .arr items => nestingOfItems items + 1
  | .obj members => nestingOfMembers members + 1
  | _ => 0

/-- The deepest nesting among the items of a list. -/
def nestingOfItems : List Json → Nat
  | [] => 0
  | v :: rest => max (nesting v) (nestingOfItems rest)

/-- The deepest nesting among the members of an object. -/
def nestingOfMembers : List (String × Json) → Nat
  | [] => 0
  | (_, v) :: rest => max (nesting v) (nestingOfMembers rest)

end

/-- How many may stand inside each other in a value that is read or written. -/
def nestingLimit : Nat := 970

end Json

end IndexExplorer
