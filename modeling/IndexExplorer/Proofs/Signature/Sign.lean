import IndexExplorer.Proofs.Headers
import IndexExplorer.Signature

/-!
What signing does to a request, said once for everything that is proved of signed requests.

* `sign_eq_ok_iff`: a request is signed exactly when its headers can be dated, its URL taken apart
  and its host told, and then all but its headers stays;
* `canonicalForm`: the text that is signed for a request;
* `exists_canonicalForm`, `getAll_authorization`: a signed request has one value that authenticates
  it, and that is the signature of this text.
-/
namespace IndexExplorer.Signature

/-- The headers that signing writes: those it worked on, and the value that authenticates. -/
def writtenHeaders (d : Digest) (p : Purpose) (r : Request) (working : Headers) (url : UrlParts)
    (signed : Headers) : Headers :=
  let bodyHash := (working.get? hashHeader).getD (d.hashText r.body)
  let canonical := canonicalRequest r.method url signed bodyHash
  working ++ [("authorization", authorization p (nameList signed) (signatureOf d p canonical))]

theorem sign_eq_ok_iff {d : Digest} {p : Purpose} {hashBody : Bool} {r out : Request} :
    sign d p hashBody r = .ok out ↔
      ∃ working url signed, workingHeaders d p hashBody r = .ok working ∧
        UrlParts.split r.url.text = .ok url ∧ withHost url (signedOnes working) = .ok signed ∧
        out = { r with
          headers := r.headers.assignAll (writtenHeaders d p r working url signed) } := by
  constructor
  · intro h
    cases hw : workingHeaders d p hashBody r with
    | error e => simp [sign, hw, bind, Except.bind] at h
    | ok working =>
      cases hu : UrlParts.split r.url.text with
      | error e => simp [sign, hw, hu, bind, Except.bind] at h
      | ok url =>
        cases hs : withHost url (signedOnes working) with
        | error e => simp [sign, hw, hu, hs, bind, Except.bind] at h
        | ok signed =>
          refine ⟨working, url, signed, rfl, rfl, hs, ?_⟩
          simp only [sign, hw, hu, hs, bind, Except.bind, pure, Except.pure, Except.ok.injEq] at h
          exact h.symm
  · rintro ⟨working, url, signed, hw, hu, hs, rfl⟩
    simp only [sign, hw, hu, hs, bind, Except.bind]
    rfl

/-- Signing changes the headers of a request and nothing else. -/
theorem eq_of_sign {d : Digest} {p : Purpose} {hashBody : Bool} {r out : Request}
    (h : sign d p hashBody r = .ok out) : out = { r with headers := out.headers } := by
  obtain ⟨working, url, signed, _, _, _, rfl⟩ := sign_eq_ok_iff.mp h
  rfl

/-- The text that is signed for a request. -/
def canonicalForm (d : Digest) (p : Purpose) (hashBody : Bool) (r : Request) : Result String := do
  let working ← workingHeaders d p hashBody r
  let url ← UrlParts.split r.url.text
  let signed ← withHost url (signedOnes working)
  return canonicalRequest r.method url signed ((working.get? hashHeader).getD (d.hashText r.body))

theorem exists_canonicalForm {d : Digest} {p : Purpose} {hashBody : Bool} {r out : Request}
    (h : sign d p hashBody r = .ok out) :
    ∃ url headers bodyHash, UrlParts.split r.url.text = .ok url ∧
      canonicalForm d p hashBody r = .ok (canonicalRequest r.method url headers bodyHash) ∧
      out.headers.getAll "authorization" = [authorization p (nameList headers)
        (signatureOf d p (canonicalRequest r.method url headers bodyHash))] := by
  obtain ⟨working, url, signed, works, split, hosted, rfl⟩ := sign_eq_ok_iff.mp h
  refine ⟨url, signed, _, split, ?_, Headers.getAll_assignAll_concat ..⟩
  simp only [canonicalForm, works, split, hosted, bind, Except.bind]
  rfl

/-- What authenticates a signed request is its signature, and nothing else. -/
theorem getAll_authorization {d : Digest} {p : Purpose} {hashBody : Bool} {r out : Request}
    (h : sign d p hashBody r = .ok out) :
    ∃ names signature, out.headers.getAll "authorization" = [authorization p names signature] := by
  obtain ⟨url, headers, bodyHash, -, -, value⟩ := exists_canonicalForm h
  exact ⟨_, _, value⟩

end IndexExplorer.Signature
