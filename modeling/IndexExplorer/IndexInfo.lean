import IndexExplorer.Problem

/-!
Indices, and how the engine's listing of them is read.
-/
namespace IndexExplorer

/-- An index of the engine. -/
structure IndexInfo where
  index : String
  health : Option String := none
  status : Option String := none
  docsCount : Option Int := none
  storeSize : Option String := none
deriving DecidableEq, Repr

namespace IndexInfo

/-- An index as it is given. -/
def rule : Rule IndexInfo := Rule.record fun ms =>
  IndexInfo.mk <$> ms.required "index" Rule.text
    <*> ms.field "health" (Rule.optional Rule.text) none
    <*> ms.field "status" (Rule.optional Rule.text) none
    <*> ms.field "docs_count" (Rule.optional Rule.integer) none
    <*> ms.field "store_size" (Rule.optional Rule.text) none

/-- All fields of an index. -/
def toJson (i : IndexInfo) : Json := .obj [
  ("index", .str i.index),
  ("health", .ofOption .str i.health),
  ("status", .ofOption .str i.status),
  ("docs_count", .ofOption .int i.docsCount),
  ("store_size", .ofOption .str i.storeSize)]

/-- The count of documents that a value stands for, when it is one. -/
def countOf (v : Json) : Result (Option Int) :=
  match v.toInteger with
  | .ok n => .ok (some n)
  | .error .wrongKind | .error (.badValue _) => .ok none
  | .error p => .error p

/-- The record of a row, unless it has no name or is hidden: names of hidden indices begin with a
dot. -/
def ofRow (hiddenToo : Bool) : Json → Result (Option IndexInfo)
  | .obj ms =>
    let name := Members.getOrNull ms "index"
    if !name.given then .ok none
    else match name with
      | .str s =>
        if s.startsWith "." && !hiddenToo then .ok none
        else do
          let count ← countOf (Members.getOrNull ms "docs.count")
          let column := fun (n field : String) =>
            ((Rule.optional Rule.text) (Members.getOrNull ms n)).under (.member field)
          let info ← Checked.result (IndexInfo.mk s <$> column "health" "health"
            <*> column "status" "status" <*> pure count <*> column "store.size" "store_size")
          return some info
      | _ => .error .noSuchPart
  | _ => .error .noSuchPart

/-- The records of the rows, in their order. -/
def ofRowList (hiddenToo : Bool) : List Json → Result (List IndexInfo)
  | [] => .ok []
  | row :: rest => do
    let first ← ofRow hiddenToo row
    let others ← ofRowList hiddenToo rest
    return first.toList ++ others

/-- The name of `b` does not come before that of `a`. -/
def inOrder (a b : IndexInfo) : Bool := !(b.index < a.index)

theorem inOrder_iff {a b : IndexInfo} : inOrder a b ↔ a.index ≤ b.index := by
  rw [inOrder, Bool.not_eq_true', decide_eq_false_iff_not]
  exact Iff.rfl

theorem inOrder_trans (a b c : IndexInfo) (ab : inOrder a b) (bc : inOrder b c) : inOrder a c :=
  inOrder_iff.mpr (String.le_trans (inOrder_iff.mp ab) (inOrder_iff.mp bc))

theorem inOrder_total (a b : IndexInfo) : (inOrder a b || inOrder b a) = true := by
  rw [Bool.or_eq_true_iff, inOrder_iff, inOrder_iff]
  exact String.le_total ..

/-- The records by name; rows with one name keep their order. -/
def sortByName (infos : List IndexInfo) : List IndexInfo := infos.mergeSort inOrder

theorem sortByName_perm (infos : List IndexInfo) : (sortByName infos).Perm infos :=
  List.mergeSort_perm ..

theorem pairwise_sortByName (infos : List IndexInfo) :
    (sortByName infos).Pairwise fun a b => a.index ≤ b.index :=
  (List.pairwise_mergeSort inOrder_trans inOrder_total infos).imp inOrder_iff.mp

/-- The records of the engine's listing. -/
def ofListing (rows : Json) (hiddenToo : Bool) : Result (List IndexInfo) :=
  if !rows.given then .ok []
  else match rows with
    | .arr items => (ofRowList hiddenToo items).map sortByName
    | .str _ | .obj _ => .error .noSuchPart
    | _ => .error .wrongKind

end IndexInfo

end IndexExplorer
