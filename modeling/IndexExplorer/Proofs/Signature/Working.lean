import IndexExplorer.Proofs.Headers
import IndexExplorer.Proofs.Signature.Sign
import IndexExplorer.Proofs.Signature.Stated

/-!
The headers that signing works on, for requests that name neither a date nor a hash of their own.

* `undatedHeaders`, `workingHeaders_eq`: they can always be made, in one form;
* `mem_names_undated`: which names they have;
* `nodup_undated`: each of them once;
* `date_mem_undated`, `hash_mem_undated`: what signing says in its own.
-/
namespace IndexExplorer.Signature

open Headers

/-- A request names no date and no hash of its body, so that signing adds its own. -/
structure Undated (r : Request) : Prop where
  date : "date" ∉ names r.headers
  hash : hashHeader ∉ names r.headers

/-- The headers that signing works on when there is no date header. -/
def undatedHeaders (d : Digest) (p : Purpose) (r : Request) : Headers :=
  let hashed : Headers := ownHeaders r ++ [(hashHeader, d.hashText r.body)]
  tokened ((hashed.erase "authorization").erase "x-amz-date" ++ [("x-amz-date", p.moment)])
    p.credentials.sessionToken

variable {d : Digest} {p : Purpose} {r : Request}

theorem names_ownHeaders (r : Request) :
    names (ownHeaders r) = (names r.headers.joined).filter (!transportHeaders.contains ·) :=
  names_filter r.headers.joined (!transportHeaders.contains ·)

theorem mem_names_ownHeaders {n : String} :
    n ∈ names (ownHeaders r) ↔ n ∈ names r.headers ∧ n ∉ transportHeaders := by
  rw [names_ownHeaders, List.mem_filter, mem_names_joined]
  simp

theorem workingHeaders_eq (h : Undated r) :
    workingHeaders d p true r = .ok (undatedHeaders d p r) := by
  have undated :
      Named.has (erase (ownHeaders r ++ [(hashHeader, d.hashText r.body)]) "authorization") "date" =
        false := by
    rw [← Bool.not_eq_true, has_eq_true_iff, mem_names_erase, names_append, List.mem_append,
      mem_names_ownHeaders]
    rintro ⟨⟨mem, -⟩ | mem, -⟩
    · exact h.date mem
    · have e : "date" = hashHeader := List.mem_singleton.mp mem
      exact absurd e (by decide)
  simp only [workingHeaders, dated, ↓reduceIte, undated, Bool.false_eq_true, Except.map]
  rfl

theorem nodup_ownHeaders : (names (ownHeaders r)).Nodup := by
  rw [names_ownHeaders]
  exact (nodup_joined r.headers).filter _

theorem tokened_of_ne {t : String} (h : Headers) (full : t ≠ "") :
    tokened h (some t) = h.erase "x-amz-security-token" ++ [("x-amz-security-token", t)] := by
  simp [tokened, Option.filter, full]

theorem mem_names_tokened {h : Headers} {token : Option String} {n : String} :
    n ∈ names (tokened h token) ↔
      n ∈ names h ∨ (n = "x-amz-security-token" ∧ ∃ t, token = some t ∧ t ≠ "") := by
  cases token with
  | none => simp [tokened]
  | some t =>
    by_cases empty : t = ""
    · subst empty
      have same : tokened h (some "") = h := rfl
      simp [same]
    · have added : n ∈ names [("x-amz-security-token", t)] ↔ n = "x-amz-security-token" := by
        simp [names]
      rw [tokened_of_ne h empty, names_append, List.mem_append, mem_names_erase, added]
      by_cases e : n = "x-amz-security-token"
      · simp [e, empty]
      · simp [e]

theorem nodup_tokened {h : Headers} (nodup : (names h).Nodup) (token : Option String) :
    (names (tokened h token)).Nodup := by
  unfold tokened
  split
  · exact nodup_erase_append nodup _ _
  · exact nodup

/-- The names that signing works on: those of the request that are its own to sign, and those that
signing adds. -/
theorem mem_names_undated {n : String} :
    n ∈ names (undatedHeaders d p r) ↔
      (n ∈ names r.headers ∧ n ∉ transportHeaders ∧ n ≠ "authorization") ∨
        n = hashHeader ∨ n = "x-amz-date" ∨
        (n = "x-amz-security-token" ∧
          ∃ t, p.credentials.sessionToken = some t ∧ t ≠ "") := by
  rw [undatedHeaders, mem_names_tokened, names_append, List.mem_append, mem_names_erase,
    mem_names_erase, names_append, List.mem_append, mem_names_ownHeaders]
  have hashed : n ∈ names [(hashHeader, d.hashText r.body)] ↔ n = hashHeader := by simp [names]
  have dated : n ∈ names [("x-amz-date", p.moment)] ↔ n = "x-amz-date" := by simp [names]
  rw [hashed, dated]
  by_cases date : n = "x-amz-date"
  · simp [date]
  · by_cases auth : n = "authorization"
    · subst auth
      have other : "authorization" ≠ hashHeader := by decide
      simp [other]
    · simp [date, auth, or_assoc]

/-- What holds of the names of a request and of those that signing adds holds of all that signing
works on. -/
theorem forall_undated {holds : String → Prop} (own : ∀ n ∈ names r.headers, holds n)
    (added : ∀ n ∈ [hashHeader, "x-amz-date", "x-amz-security-token"], holds n) :
    ∀ n ∈ names (undatedHeaders d p r), holds n := by
  intro n mem
  rcases mem_names_undated.mp mem with ⟨named, -, -⟩ | rfl | rfl | ⟨rfl, -⟩
  · exact own n named
  · exact added _ (by decide)
  · exact added _ (by decide)
  · exact added _ (by decide)

theorem nodup_undated (h : Undated r) : (names (undatedHeaders d p r)).Nodup := by
  have hashed : (names (ownHeaders r ++ [(hashHeader, d.hashText r.body)])).Nodup := by
    rw [names_append, List.nodup_append]
    refine ⟨nodup_ownHeaders, by simp [names], ?_⟩
    rintro n own m added rfl
    obtain rfl : n = hashHeader := List.mem_singleton.mp added
    exact h.hash (mem_names_ownHeaders.mp own).1
  rw [undatedHeaders]
  refine nodup_tokened (nodup_erase_append ?_ _ _) _
  rw [names_erase]
  exact hashed.filter _

/-! ## What they say -/

theorem mem_tokened {h : Headers} {n v : String} (mem : (n, v) ∈ h)
    (other : n ≠ "x-amz-security-token") (token : Option String) : (n, v) ∈ tokened h token := by
  unfold tokened
  split
  · refine List.mem_append_left _ (List.mem_filter.mpr ⟨mem, ?_⟩)
    simpa using other
  · exact mem

theorem date_mem_undated : ("x-amz-date", p.moment) ∈ undatedHeaders d p r :=
  mem_tokened (List.mem_append_right _ List.mem_cons_self) (by decide) _

theorem hash_mem_undated : (hashHeader, d.hashText r.body) ∈ undatedHeaders d p r := by
  refine mem_tokened (List.mem_append_left _ ?_) (by decide) _
  have signed : hashHeader ≠ "authorization" ∧ hashHeader ≠ "x-amz-date" := by decide
  simp [erase, signed.1, signed.2]

/-! ## The signed request -/

theorem mem_names_signedOnes {h : Headers} {n : String} :
    n ∈ names (signedOnes h) ↔ n ∈ names h ∧ n ∉ excludedHeaders := by
  have e : names (signedOnes h) = (names h).filter (!excludedHeaders.contains ·) :=
    names_filter h (!excludedHeaders.contains ·)
  rw [e, List.mem_filter]
  simp

theorem get?_hash_undated (undated : Undated r) :
    (undatedHeaders d p r).get? hashHeader = some (d.hashText r.body) := by
  rw [get?_eq_head?, getAll_eq_singleton (nodup_undated undated) hash_mem_undated]
  rfl

/-- What is signed of a request. -/
def signedForm (d : Digest) (p : Purpose) (r : Request) (url : UrlParts) : String :=
  canonicalRequest r.method url (signedOnes (undatedHeaders d p r)) (d.hashText r.body)

/-- The value that authenticates a request. -/
def signedValue (d : Digest) (p : Purpose) (r : Request) (url : UrlParts) : String :=
  authorization p (nameList (signedOnes (undatedHeaders d p r)))
    (signatureOf d p (signedForm d p r url))

/-- The headers of a request after signing. -/
def signedHeaders (d : Digest) (p : Purpose) (r : Request) (url : UrlParts) : Headers :=
  r.headers.assignAll (undatedHeaders d p r ++ [("authorization", signedValue d p r url)])

/-- A request with a host and without a date of its own is signed whenever its URL can be taken
apart. -/
theorem sign_undated_iff {out : Request} (undated : Undated r) (host : "host" ∈ names r.headers) :
    sign d p true r = .ok out ↔
      ∃ url, UrlParts.split r.url.text = .ok url ∧
        out = { r with headers := signedHeaders d p r url } := by
  have hosted : (signedOnes (undatedHeaders d p r)).has "host" = true := by
    rw [has_eq_true_iff, mem_names_signedOnes, mem_names_undated]
    exact ⟨.inl ⟨host, by decide, by decide⟩, by decide⟩
  have written : ∀ url, r.headers.assignAll (writtenHeaders d p r (undatedHeaders d p r) url
      (signedOnes (undatedHeaders d p r))) = signedHeaders d p r url := by
    intro url
    rw [signedHeaders, signedValue, signedForm, writtenHeaders, get?_hash_undated undated]
    rfl
  rw [sign_eq_ok_iff]
  constructor
  · rintro ⟨working, url, final, hw, hu, hs, rfl⟩
    obtain rfl : undatedHeaders d p r = working :=
      Except.ok.inj ((workingHeaders_eq undated).symm.trans hw)
    obtain rfl : signedOnes (undatedHeaders d p r) = final := by
      simpa [withHost, hosted] using hs
    refine ⟨url, hu, ?_⟩
    rw [written]
  · rintro ⟨url, hu, rfl⟩
    refine ⟨undatedHeaders d p r, url, signedOnes (undatedHeaders d p r), workingHeaders_eq undated,
      hu, by simp [withHost, hosted], ?_⟩
    rw [written]

theorem nodup_written (undated : Undated r) (value : String) :
    (names (undatedHeaders d p r ++ [("authorization", value)])).Nodup := by
  rw [names_append, List.nodup_append]
  refine ⟨nodup_undated undated, by simp [names], ?_⟩
  rintro n mem m single rfl
  obtain rfl : n = "authorization" := List.mem_singleton.mp single
  rcases mem_names_undated.mp mem with ⟨-, -, other⟩ | e | e | ⟨e, -⟩
  · exact other rfl
  all_goals exact absurd e (by decide)

/-- A header that signing worked on has in the signed request the value that it had there. -/
theorem getAll_signedHeaders (undated : Undated r) (url : UrlParts) {n : String}
    (mem : n ∈ names (undatedHeaders d p r)) :
    (signedHeaders d p r url).getAll n = (undatedHeaders d p r).getAll n := by
  obtain ⟨v, field⟩ := exists_mem_of_mem_names mem
  rw [signedHeaders, getAll_assignAll_of_mem _ (nodup_written undated _)
    (List.mem_append_left _ field), getAll_eq_singleton (nodup_undated undated) field]

/-- The value that authenticates is alone. -/
theorem get?_authorization (undated : Undated r) (url : UrlParts) :
    (signedHeaders d p r url).get? "authorization" = some (signedValue d p r url) := by
  rw [get?_eq_head?, signedHeaders, getAll_assignAll_of_mem _ (nodup_written undated _)
    (List.mem_append_right _ List.mem_cons_self)]
  rfl

theorem get?_date (undated : Undated r) (url : UrlParts) :
    (signedHeaders d p r url).get? "x-amz-date" = some p.moment := by
  rw [get?_eq_head?, getAll_signedHeaders undated url (mem_names_of_mem date_mem_undated),
    getAll_eq_singleton (nodup_undated undated) date_mem_undated]
  rfl

/-- The lines of the signed headers are the same for what was signed and for what is received. -/
theorem map_headerLine_signedHeaders (undated : Undated r) (url : UrlParts) :
    (sortedNames (signedOnes (undatedHeaders d p r))).map (headerLine (signedHeaders d p r url)) =
      (sortedNames (signedOnes (undatedHeaders d p r))).map
        (headerLine (signedOnes (undatedHeaders d p r))) := by
  apply List.map_congr_left
  intro n mem
  obtain ⟨worked, signed⟩ := mem_names_signedOnes.mp (mem_sortedNames.mp mem)
  have kept : (signedOnes (undatedHeaders d p r)).getAll n = (undatedHeaders d p r).getAll n :=
    getAll_filter _ (!excludedHeaders.contains ·) (by simpa using signed)
  rw [headerLine, headerLine, getAll_signedHeaders undated url worked, kept]

end IndexExplorer.Signature
