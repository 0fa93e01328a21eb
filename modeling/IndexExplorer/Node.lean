import IndexExplorer.Problem
import IndexExplorer.Text.Blank

/-!
The nodes of a connection as base URLs, and the paths of requests.
-/
namespace IndexExplorer.Node

/-- A node without the blanks around it and the slashes at its end. -/
def trim (node : String) : String :=
  String.ofList (Text.dropEndWhile (· = '/') (Text.trimWhile Text.isBlank node.toList))

/-- The nodes that are not blank, in order. -/
def normalize (nodes : List String) : List String :=
  (nodes.filter (!Text.blank ·)).map trim

/-- The texts among values; what is not given is passed over, other values are no nodes. -/
def textsOf : List Json → Result (List String)
  | [] => .ok []
  | .str s :: rest => (textsOf rest).map (s :: ·)
  | v :: rest => if v.given then .error .noSuchPart else textsOf rest

/-- The nodes of a list of values. -/
def ofValue : Json → Result (List String)
  | .arr items => (textsOf items).map normalize
  | .str s => .ok (normalize (s.toList.map fun c => String.ofList [c]))
  | .obj ms => .ok (normalize (ms.map (·.1)))
  | _ => .error .wrongKind

/-- A path that begins with a slash. -/
def rooted (path : String) : String := if path.startsWith "/" then path else "/" ++ path

end IndexExplorer.Node
