import IndexExplorer.Proofs.Json.Numeral
import IndexExplorer.Proofs.Signature.Working
import IndexExplorer.Proofs.Url.Rejoined

/-!
When the request for a URL can be signed.

The text of the URL is taken apart once more, and what is signed has to name a host.

* `IsPlaced`: what a URL has to name;
* `exists_hostOf`: a port is enough where there is no host;
* `Request.exists_sign`: the request for a URL that was read from sound pieces is signed.
-/
namespace IndexExplorer

namespace Signature

/-- A URL that names a host, or at least a port of sixteen bits other than that of its scheme. -/
def IsPlaced (u : Url) : Prop :=
  u.host ≠ "" ∨ ∃ n : Nat, n ≤ 65535 ∧ u.port = some (n : Int) ∧
    Url.defaultPort? u.scheme ≠ some (n : Int)

theorem IsPlaced.authority {u : Url} (placed : IsPlaced u) : u.written.authority ≠ [] := by
  rcases placed with named | ⟨n, -, port, -⟩
  · simp [Url.written, Url.hostPart_ne_nil named]
  · simp [Url.written, Url.portPart, port]

/-- Without a host there is only the port behind the user. -/
theorem hostPort_of_hostless {u : Url} {parts : UrlParts} (clean : Url.Clean u)
    (authority : parts.authority = String.ofList u.written.authority) (hostless : u.host = "")
    {n : Nat} (port : u.port = some (n : Int)) : parts.hostPort = ([], Nat.toDigits 10 n) := by
  have digits : (toString (n : Int)).toList = Nat.toDigits 10 n := by
    show (toString (Int.ofNat n)).toList = _
    simp [toString, Int.repr, Nat.repr]
  have bare : u.hostPart = [] := by simp [Url.hostPart, hostless]
  have rest : UrlParts.afterLast '@' parts.authority.toList = ':' :: Nat.toDigits 10 n := by
    rw [authority, String.toList_ofList, clean.afterLast_authority, bare, Url.portPart, port,
      List.nil_append]
    exact congrArg (':' :: ·) digits
  have unbracketed : '[' ∉ ':' :: Nat.toDigits 10 n := by
    rw [List.mem_cons, not_or]
    exact ⟨by decide, fun mem => absurd (Number.digits_toDigits n _ mem) (by decide)⟩
  simp only [UrlParts.hostPort, rest, UrlParts.bracketed_eq_nil_iff.mpr unbracketed]
  rfl

/-- The ports that are not signed are those that are not written either. -/
theorem defaultPort?_of_lookup {scheme : String} {n : Nat}
    (known : [("http", 80), ("https", 443)].lookup scheme = some n) :
    Url.defaultPort? scheme = some (n : Int) := by
  simp only [List.lookup_cons, List.lookup_nil] at known
  split at known
  · rename_i http
    obtain rfl := Option.some.inj known
    rw [beq_iff_eq.mp http]
    rfl
  · split at known
    · rename_i https
      obtain rfl := Option.some.inj known
      rw [beq_iff_eq.mp https]
      rfl
    · cases known

/-- In the place of a missing host a word is signed with the port. -/
theorem exists_hostOf {u : Url} {parts : UrlParts} (clean : Url.Clean u)
    (scheme : parts.scheme = u.scheme)
    (authority : parts.authority = String.ofList u.written.authority) (hostless : u.host = "")
    {n : Nat} (small : n ≤ 65535) (port : u.port = some (n : Int))
    (unusual : Url.defaultPort? u.scheme ≠ some (n : Int)) : ∃ host, hostOf parts = .ok host := by
  have place := hostPort_of_hostless clean authority hostless port
  have name : parts.lowerHost = "" := by
    simp only [UrlParts.lowerHost, place]
    rfl
  have number : parts.port? = .ok (some n) := by
    have some : (Nat.toDigits 10 n).isEmpty = false := by simp
    have plain : (!(Nat.toDigits 10 n).all Char.isDigit) = false := by
      simpa using Number.digits_toDigits n
    simp only [UrlParts.port?, place, some, plain, Number.ofDigits_toDigits, Bool.false_eq_true,
      ↓reduceIte]
    rw [if_neg (by omega)]
  have shown : [("http", 80), ("https", 443)].lookup parts.scheme ≠ some n := by
    rw [scheme]
    exact fun known => unusual (defaultPort?_of_lookup known)
  refine ⟨"None:" ++ toString n, ?_⟩
  simp [hostOf, name, number, shown, Option.filter, bind, Except.bind, pure, Except.pure]

/-- A request without a date of its own is signed when its URL can be taken apart and a host is
named or can be told. -/
theorem exists_sign {d : Digest} {p : Purpose} {r : Request} {parts : UrlParts}
    (undated : Undated r) (apart : UrlParts.split r.url.text = .ok parts)
    (host : "host" ∈ Headers.names r.headers ∨ ∃ host, hostOf parts = .ok host) :
    ∃ out, sign d p true r = .ok out ∧ out.url = r.url := by
  obtain ⟨signed, hosted⟩ : ∃ signed,
      withHost parts (signedOnes (undatedHeaders d p r)) = .ok signed := by
    unfold withHost
    split
    · exact ⟨_, rfl⟩
    · rename_i absent
      rcases host with named | ⟨host, told⟩
      · refine absurd ?_ absent
        rw [Headers.has_eq_true_iff, mem_names_signedOnes, mem_names_undated]
        exact ⟨.inl ⟨named, by decide, by decide⟩, by decide⟩
      · exact ⟨_, by rw [told]; rfl⟩
  exact ⟨_, sign_eq_ok_iff.mpr ⟨_, parts, signed, workingHeaders_eq undated, apart, hosted, rfl⟩,
    rfl⟩

end Signature

/-- The URL that was read from pieces without a fault can be signed for if it is placed. -/
theorem Request.exists_sign {d : Digest} {k : Signature.Purpose} {r : Request} {p : Url.Spelling}
    (undated : Signature.Undated r) (absolute : p.Absolute)
    (printable : ∀ c ∈ p.text, Url.isControl c = false)
    (sound : UrlParts.authorityFault p.authority = none) (spells : Url.Spells p r.url)
    (hosted : r.url.host ≠ "" → "host" ∈ Headers.names r.headers)
    (placed : Signature.IsPlaced r.url) :
    ∃ out, Signature.sign d k true r = .ok out ∧ out.url = r.url := by
  obtain ⟨clean, parts, apart, scheme, authority⟩ :=
    Url.split_of_spells absolute printable sound spells placed.authority
  refine Signature.exists_sign undated apart ?_
  by_cases hostless : r.url.host = ""
  · rcases placed with named | ⟨n, small, port, unusual⟩
    · exact absurd hostless named
    · exact .inr (Signature.exists_hostOf clean scheme authority hostless small port unusual)
  · exact .inl (hosted hostless)

/-- Putting the text of a URL together again leaves it placed. -/
theorem Url.Rejoined.isPlaced {u v : Url} (same : Url.Rejoined u v) (placed : Signature.IsPlaced u) :
    Signature.IsPlaced v := by
  rcases placed with named | ⟨n, small, port, unusual⟩
  · exact .inl (same.host ▸ named)
  · exact .inr ⟨n, small, by simp [same.port, port, Option.filter, unusual], same.scheme ▸ unusual⟩

end IndexExplorer
