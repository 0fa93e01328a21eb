import IndexExplorer.Check
import IndexExplorer.Json.Display
import IndexExplorer.Problem

/-!
Pages of hits, and how the engine's answer to a search is read as one.
-/
namespace IndexExplorer

/-- A document found by a search. -/
structure Hit where
  id : String
  index : String
  score : Option Float := none
  source : Members := []

namespace Hit

/-- A hit as it is given. -/
def rule : Rule Hit := Rule.record fun ms =>
  Hit.mk <$> ms.required "id" Rule.text <*> ms.required "index" Rule.text
    <*> ms.field "score" (Rule.optional Rule.float) none
    <*> ms.field "source" Rule.members []

/-- All fields of a hit. -/
def toJson (h : Hit) : Json := .obj [
  ("id", .str h.id),
  ("index", .str h.index),
  ("score", .ofOption .float h.score),
  ("source", .obj h.source)]

end Hit

/-- A page of hits, with the page asked for. -/
structure SearchPage where
  total : Int := 0
  totalRelation : String := "exact"
  took : Option Int := none
  hits : List Hit := []
  offset : Int := 0
  size : Int := 0

namespace SearchPage

/-- A page as it is given. -/
def rule : Rule SearchPage := Rule.record fun ms =>
  SearchPage.mk <$> ms.field "total" Rule.integer 0
    <*> ms.field "total_relation" Rule.text "exact"
    <*> ms.field "took" (Rule.optional Rule.integer) none
    <*> ms.field "hits" (Rule.listOf Hit.rule) []
    <*> ms.field "offset" Rule.integer 0
    <*> ms.field "size" Rule.integer 0

/-- All fields of a page. -/
def toJson (p : SearchPage) : Json := .obj [
  ("total", .int p.total),
  ("total_relation", .str p.totalRelation),
  ("took", .ofOption .int p.took),
  ("hits", .arr (p.hits.map (·.toJson))),
  ("offset", .int p.offset),
  ("size", .int p.size)]

/-- What the engine says about the exactness of a total. Names that are not known, or that are no
texts, are taken as exact; lists and objects cannot be looked up. -/
def relationOf : Json → Result String
  | .str s => .ok (if s = "gte" then "approximate" else "exact")
  | .arr _ | .obj _ => .error .wrongKind
  | _ => .ok "exact"

/-- The total and its exactness: an object of both, or a bare number. -/
def totalOf : Json → Result (Int × String)
  | .obj ms => do
    let value ← ((Named.get? ms "value").getD (.int 0)).toInteger
    let relation ← relationOf ((Named.get? ms "relation").getD (.str "eq"))
    return (value, relation)
  | v =>
    if v.given then do
      let value ← v.toInteger
      return (value, "exact")
    else .ok (0, "exact")

/-- A member as text, whatever it is; empty when it is missing. -/
def shownMember (ms : Members) (name : String) : String :=
  ((ms.get? name).map (·.shown)).getD ""

/-- A hit of the engine's answer, which is checked as a record. -/
def hitOf (ms : Members) : Result Hit :=
  let source := ms.getOrNull "_source"
  Checked.result (Hit.mk <$> pure (shownMember ms "_id") <*> pure (shownMember ms "_index")
    <*> ((Rule.optional Rule.float) (ms.getOrNull "_score")).under (.member "score")
    <*> (Rule.members (if source.given then source else .obj [])).under (.member "source"))

/-- The hits of a list: what is no object is passed over. -/
def hitsFrom : List Json → Result (List Hit)
  | [] => .ok []
  | .obj ms :: rest => do
    let first ← hitOf ms
    let others ← hitsFrom rest
    return first :: others
  | _ :: rest => hitsFrom rest

/-- The hits of a value: texts and objects have no hits, other values cannot be gone through. -/
def hitsOf (v : Json) : Result (List Hit) :=
  if !v.given then .ok []
  else match v with
    | .arr items => hitsFrom items
    | .str _ | .obj _ => .ok []
    | _ => .error .wrongKind

/-- The members of a value; none unless it is an object. -/
def membersOf (v : Json) : Members := v.members?.getD []

/-- A page from the engine's answer, and the page that was asked for. -/
def ofAnswer (answer offset size : Json) : Result SearchPage := do
  let ms := membersOf answer
  let block := membersOf (ms.getOrNull "hits")
  let (total, relation) ← totalOf ((block.get? "total").getD (.int 0))
  let hits ← hitsOf (block.getOrNull "hits")
  Checked.result (SearchPage.mk total relation
    <$> ((Rule.optional Rule.integer) (ms.getOrNull "took")).under (.member "took")
    <*> pure hits
    <*> (Rule.integer offset).under (.member "offset")
    <*> (Rule.integer size).under (.member "size"))

end SearchPage

end IndexExplorer
