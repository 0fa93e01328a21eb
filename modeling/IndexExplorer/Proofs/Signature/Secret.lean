import IndexExplorer.Proofs.Exchange.Alike
import IndexExplorer.Proofs.Signature.Sign

/-!
What of a signed request depends on the secret key.

* `SameButSignature`: two requests that are equal but for the signature, which ends the value that
  authenticates them;
* `sameButSignature_outgoing`: they stay so when they go out;
* `sign_agree`: a request is signed with two secret keys in this way, or with neither of them, for
  the same reason.
-/
namespace IndexExplorer

/-- Two sets of keys that differ at most in the secret one. -/
def CredentialSet.SameButSecret (k k' : CredentialSet) : Prop :=
  k' = { k with secretKey := k'.secretKey }

namespace Signature

/-- Two fields that are equal, or authenticate with values that are equal up to their last
comma, behind which the signatures stand. -/
inductive SameField : String × String → String × String → Prop
  | same (field) : SameField field field
  | signed (front : String) (mac mac' : ByteArray) :
    SameField ("authorization", front ++ ", Signature=" ++ Digest.hexText mac)
      ("authorization", front ++ ", Signature=" ++ Digest.hexText mac')

/-- Two requests that differ at most in the signature of the value that authenticates them. -/
structure SameButSignature (r r' : Request) : Prop where
  method : r.method = r'.method
  url : r.url = r'.url
  body : r.body = r'.body
  timeout : r.timeout = r'.timeout
  headers : List.Forall₂ SameField r.headers r'.headers

/-! ## Fields that are written over others -/

theorem SameField.name {f g : String × String} (h : SameField f g) : f.1 = g.1 := by
  cases h with
  | same => rfl
  | signed => rfl

theorem sameFields (h : Headers) : List.Forall₂ SameField h h := by
  induction h with
  | nil => exact .nil
  | cons f h ih => exact .cons (.same f) ih

theorem sameFields_erase {h h' : Headers} (same : List.Forall₂ SameField h h') (name : String) :
    List.Forall₂ SameField (h.erase name) (h'.erase name) := by
  induction same with
  | nil => exact .nil
  | @cons f g h h' first rest ih =>
    have names := first.name
    by_cases found : g.1 = name
    · have dropped : f.1 = name := names.trans found
      simpa only [Headers.erase, List.filter_cons, found, dropped, ne_eq, not_true_eq_false,
        decide_false, Bool.false_eq_true, ↓reduceIte] using ih
    · have kept : f.1 ≠ name := names ▸ found
      simp only [Headers.erase, List.filter_cons, found, kept, ne_eq, not_false_eq_true,
        decide_true, ↓reduceIte]
      exact .cons first ih

theorem sameFields_assign {h h' : Headers} {name value value' : String}
    (same : List.Forall₂ SameField h h') (field : SameField (name, value) (name, value')) :
    List.Forall₂ SameField (h.assign name value) (h'.assign name value') := by
  induction same with
  | nil => exact .cons field .nil
  | @cons f g h h' first rest ih =>
    obtain ⟨n, v⟩ := f
    obtain ⟨m, w⟩ := g
    obtain rfl : n = m := first.name
    by_cases found : n = name
    · simp only [Headers.assign, found, ↓reduceIte]
      exact .cons field (sameFields_erase rest name)
    · simp only [Headers.assign, found, ↓reduceIte]
      exact .cons first ih

/-! ## Requests -/

variable {r r' : Request}

/-- The user in a URL takes the place of both signatures. -/
theorem sameButSignature_outgoing (same : SameButSignature r r') :
    SameButSignature r.outgoing r'.outgoing := by
  unfold Request.outgoing
  rw [← same.url]
  simp only
  split
  · exact same
  · exact ⟨same.method, rfl, same.body, same.timeout, sameFields_assign same.headers (.same _)⟩

/-- The field that authenticates is written last, and the signature is the end of its value. -/
theorem sameFields_written (d : Digest) (p : Purpose) (k : CredentialSet)
    (same : p.credentials.SameButSecret k) (r : Request) (working : Headers) (url : UrlParts)
    (signed : Headers) :
    List.Forall₂ SameField (r.headers.assignAll (writtenHeaders d p r working url signed))
      (r.headers.assignAll (writtenHeaders d { p with credentials := k } r working url signed)) := by
  have last : ∀ value, r.headers.assignAll (working ++ [("authorization", value)]) =
      (r.headers.assignAll working).assign "authorization" value := by
    intro value
    rw [Headers.assignAll, List.foldl_append]
    rfl
  have key : authorization { p with credentials := k } = authorization p := by
    rw [same]
    rfl
  simp only [writtenHeaders, last, key]
  exact sameFields_assign (sameFields _) (.signed _ _ _)

/-- Whether a request can be signed does not depend on the secret key, and what is signed depends
on it in the signature alone. -/
theorem sign_agree (d : Digest) (p : Purpose) {k : CredentialSet}
    (same : p.credentials.SameButSecret k) (hashBody : Bool) (r : Request) :
    Result.Agree SameButSignature (sign d p hashBody r)
      (sign d { p with credentials := k } hashBody r) := by
  have working : workingHeaders d { p with credentials := k } hashBody r =
      workingHeaders d p hashBody r := by
    rw [same]
    rfl
  unfold sign
  rw [working]
  refine .bindSame _ fun headers => .bindSame _ fun url => .bindSame _ fun signed => .ok ?_
  exact ⟨rfl, rfl, rfl, rfl, sameFields_written d p k same r headers url signed⟩

end Signature

end IndexExplorer
