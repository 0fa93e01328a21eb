import IndexExplorer.Proofs.Signature.Secret
import IndexExplorer.Proofs.Signature.Values

/-!
Signing a request that is signed already.

Every header that signing adds is replaced in what is sent. In what is signed the hash of the body
is not: it is put behind the one that the request has from before.

* `workingValues_of_sign`: what signing works on the second time, name by name;
* `Passes`, `exists_passes`: what both times work on, and that the second time succeeds;
* `Passes.formOf_eq`, `Passes.formOf_twice`: the text that is signed is the same where the request
  had the hash from before, and has it twice where signing added it;
* **`sign_again`**: the request that is signed again differs from the signed one in the signature
  alone, verifies only when both signatures are equal, and stays as it is from then on.
-/
namespace IndexExplorer

/-- The request with another value that authenticates it. -/
def Request.reauthorized (r : Request) (value : String) : Request :=
  { r with headers := r.headers.assign "authorization" value }

namespace Signature

open Headers

variable {d : Digest} {p : Purpose} {hashBody : Bool} {r out : Request} {n : String}

/-- The second text is the first one with the hash there twice. -/
def HashedTwice (hash first second : String) : Prop :=
  ∃ before after, first = before ++ (hashHeader ++ ":" ++ hash) ++ after ∧
    second = before ++ (hashHeader ++ ":" ++ (hash ++ "," ++ hash)) ++ after

/-- The hash of the body is not asked for, or the request has it already. -/
def IsHashed (d : Digest) (hashBody : Bool) (r : Request) : Prop :=
  hashBody = true → r.headers.getAll hashHeader = [d.hashText r.body]

/-! ## What signing works on the second time -/

theorem body_of_sign (signed : sign d p hashBody r = .ok out) : out.body = r.body := by
  rw [eq_of_sign signed]

theorem url_of_sign (signed : sign d p hashBody r = .ok out) : out.url = r.url := by
  rw [eq_of_sign signed]

/-- A signed request has a date header when it had one before. -/
theorem has_date_of_sign (signed : sign d p hashBody r = .ok out) :
    out.headers.has "date" = r.headers.has "date" := by
  rw [Bool.eq_iff_iff, has_eq_true_iff, has_eq_true_iff, mem_names_iff_getAll,
    mem_names_iff_getAll, getAll_sign signed (by decide)]
  cases dated : r.headers.has "date" with
  | true =>
    have named := mem_names_iff_getAll.mp (has_eq_true_iff.mp dated)
    have mail : workingValues d p hashBody r "date" = [p.mail] := by
      simp [workingValues, setValues?, dated]
    rw [mail]
    exact iff_of_true (List.cons_ne_nil _ _) named
  | false =>
    have absent : r.headers.getAll "date" = [] :=
      getAll_eq_nil fun mem => Bool.false_ne_true (dated ▸ has_eq_true_iff.mpr mem)
    have nothing : workingValues d p hashBody r "date" = [] := by
      simp [workingValues, setValues?, dated, ownValues_of_absent absent, hashValues, hashHeader]
    rw [nothing]
    rfl

/-- Of its hash a signed request brings along the one that was added last, and of all other headers
what it brought along before. -/
theorem ownValues_of_sign (signed : sign d p hashBody r = .ok out)
    (kept : setValues? p (r.headers.has "date") n = none) :
    ownValues out n =
      if hashBody = true ∧ n = hashHeader then [d.hashText r.body] else ownValues r n := by
  have auth : n ≠ "authorization" := by
    rintro rfl
    cases kept
  have working : workingValues d p hashBody r n = ownValues r n ++ hashValues d hashBody r n := by
    rw [workingValues, kept]
    rfl
  have values := getAll_sign signed auth
  by_cases managed : n ∈ transportHeaders
  · have other : n ≠ hashHeader := by
      rintro rfl
      exact absurd managed (by decide)
    rw [ownValues_of_mem managed, ownValues_of_mem managed, if_neg fun e => other e.2]
  by_cases hash : hashBody = true ∧ n = hashHeader
  · rw [working, hashValues, if_pos hash, List.getLast?_concat] at values
    have named : out.headers.getAll n ≠ [] := values ▸ List.cons_ne_nil _ _
    rw [if_pos hash, ownValues_of_named managed named, values]
    simp
  · rw [working, hashValues, if_neg hash, List.append_nil] at values
    rw [if_neg hash]
    by_cases absent : r.headers.getAll n = []
    · rw [ownValues_of_absent absent] at values ⊢
      exact ownValues_of_absent (values.trans absent)
    · rw [ownValues_of_named managed absent] at values ⊢
      have named : out.headers.getAll n ≠ [] := values ▸ List.cons_ne_nil _ _
      rw [ownValues_of_named managed named, values]
      simp

theorem setValues?_hashHeader (p : Purpose) (isDated : Bool) :
    setValues? p isDated hashHeader = none := by
  simp [setValues?, hashHeader]

/-- The second time signing works on the same values, but that the hash of the body is there
twice. -/
theorem workingValues_of_sign (signed : sign d p hashBody r = .ok out) (n : String) :
    workingValues d p hashBody out n =
      if hashBody = true ∧ n = hashHeader then [d.hashText r.body, d.hashText r.body]
      else workingValues d p hashBody r n := by
  rw [workingValues, workingValues, has_date_of_sign signed]
  cases kept : setValues? p (r.headers.has "date") n with
  | some values =>
    have other : n ≠ hashHeader := by
      rintro rfl
      rw [setValues?_hashHeader] at kept
      cases kept
    rw [if_neg fun e => other e.2]
    rfl
  | none =>
    have own := ownValues_of_sign signed kept
    have body := body_of_sign signed
    rw [Option.getD_none, Option.getD_none, own, hashValues, hashValues, body]
    by_cases hash : hashBody = true ∧ n = hashHeader
    · simp [hash]
    · simp [hash]

theorem length_setValues?_le {isDated : Bool} {values : List String}
    (h : setValues? p isDated n = some values) : values.length ≤ 1 := by
  unfold setValues? at h
  split at h
  · obtain rfl := Option.some.inj h
    exact Nat.zero_le 1
  split at h
  · obtain rfl := Option.some.inj h
    cases isDated <;> simp
  split at h
  · obtain rfl := Option.some.inj h
    exact Nat.le_refl 1
  split at h
  · obtain ⟨t, -, rfl⟩ := Option.map_eq_some_iff.mp h
    exact Nat.le_refl 1
  · cases h

/-- But for the hash of the body there is one value at most. -/
theorem length_workingValues_le (d : Digest) (p : Purpose) (r : Request)
    (other : ¬ (hashBody = true ∧ n = hashHeader)) :
    (workingValues d p hashBody r n).length ≤ 1 := by
  rw [workingValues, hashValues, if_neg other, List.append_nil]
  cases kept : setValues? p (r.headers.has "date") n with
  | some values => exact length_setValues?_le kept
  | none =>
    rw [Option.getD_none, ownValues]
    split
    · exact Nat.zero_le 1
    · exact Option.length_toList_le

/-- What signing works on the second time is what the signed request has. -/
theorem getAll_of_mem_again (signed : sign d p hashBody r = .ok out) {v : String}
    (mem : v ∈ workingValues d p hashBody out n) : out.headers.getAll n = [v] := by
  have auth : n ≠ "authorization" := by
    rintro rfl
    simp [workingValues, setValues?] at mem
  rw [workingValues_of_sign signed] at mem
  rw [getAll_sign signed auth]
  by_cases hash : hashBody = true ∧ n = hashHeader
  · obtain rfl : v = d.hashText r.body := by simpa [hash] using mem
    rw [workingValues, hash.2, setValues?_hashHeader, Option.getD_none, hashValues,
      if_pos ⟨hash.1, rfl⟩, List.getLast?_concat]
    rfl
  · rw [if_neg hash] at mem
    have most := length_workingValues_le d p r hash
    cases values : workingValues d p hashBody r n with
    | nil => simp [values] at mem
    | cons w rest =>
      obtain rfl : rest = [] := by simpa [values] using most
      obtain rfl : v = w := by simpa [values] using mem
      rfl

/-- A signed request has the hash of its body once. -/
theorem isHashed_of_sign (signed : sign d p hashBody r = .ok out) : IsHashed d hashBody out := by
  rintro rfl
  have worked : d.hashText r.body ∈ workingValues d p true out hashHeader := by
    rw [workingValues_of_sign signed, if_pos ⟨rfl, rfl⟩]
    exact List.mem_cons_self
  rw [getAll_of_mem_again signed worked, body_of_sign signed]

/-! ## Both times -/

section Values

variable {first second : Headers}

theorem getAll_hash (works : workingHeaders d p true r = .ok first) :
    first.getAll hashHeader = ownValues r hashHeader ++ [d.hashText r.body] := by
  rw [getAll_workingHeaders works, workingValues, setValues?_hashHeader]
  rfl

theorem getAll_second (signed : sign d p hashBody r = .ok out)
    (works : workingHeaders d p hashBody r = .ok first)
    (again : workingHeaders d p hashBody out = .ok second) (n : String) :
    second.getAll n =
      if hashBody = true ∧ n = hashHeader then [d.hashText r.body, d.hashText r.body]
      else first.getAll n := by
  rw [getAll_workingHeaders again, getAll_workingHeaders works, workingValues_of_sign signed]

/-- Signing works on the same names. -/
theorem mem_names_second (signed : sign d p hashBody r = .ok out)
    (works : workingHeaders d p hashBody r = .ok first)
    (again : workingHeaders d p hashBody out = .ok second) (n : String) :
    n ∈ names second ↔ n ∈ names first := by
  rw [mem_names_iff_getAll, mem_names_iff_getAll, getAll_second signed works again]
  by_cases hash : hashBody = true ∧ n = hashHeader
  · obtain ⟨rfl, rfl⟩ := hash
    rw [getAll_hash works]
    simp
  · rw [if_neg hash]

end Values

/-- What signing works on in a request, and in the signed one, with the host that it puts among what
is signed if none is named. -/
structure Passes (d : Digest) (p : Purpose) (hashBody : Bool) (r out : Request) (url : UrlParts)
    (first second host : Headers) : Prop where
  split : UrlParts.split r.url.text = .ok url
  works : workingHeaders d p hashBody r = .ok first
  hosted : withHost url (signedOnes first) = .ok (signedOnes first ++ host)
  worksAgain : workingHeaders d p hashBody out = .ok second
  hostedAgain : withHost url (signedOnes second) = .ok (signedOnes second ++ host)
  hashless : hashHeader ∉ names host
  signed : sign d p hashBody r = .ok out

/-- A host is put among headers with other values as well. -/
theorem withHost_append {url : UrlParts} {h g signed : Headers}
    (same : ∀ n, n ∈ names g ↔ n ∈ names h) (hosted : withHost url h = .ok signed) :
    ∃ host : Headers, signed = h ++ host ∧ withHost url g = .ok (g ++ host) ∧
      hashHeader ∉ names host := by
  have known : g.has "host" = h.has "host" := by
    rw [Bool.eq_iff_iff, has_eq_true_iff, has_eq_true_iff, same]
  unfold withHost at hosted ⊢
  rw [known]
  split at hosted
  · rename_i named
    obtain rfl := Except.ok.inj hosted
    rw [if_pos named]
    exact ⟨[], by simp, by simp, List.not_mem_nil⟩
  · rename_i unnamed
    rw [if_neg unnamed]
    cases told : hostOf url with
    | error e => simp [told, Except.map] at hosted
    | ok host =>
      rw [told] at hosted
      obtain rfl := Except.ok.inj hosted
      exact ⟨[("host", host)], rfl, rfl, by simp [names, hashHeader]⟩

theorem exists_passes (signed : sign d p hashBody r = .ok out) :
    ∃ url first second host, Passes d p hashBody r out url first second host := by
  obtain ⟨first, url, headers, works, split, hosted, -⟩ := sign_eq_ok_iff.mp signed
  obtain ⟨second, again⟩ : ∃ second, workingHeaders d p hashBody out = .ok second := by
    have datable := exists_workingHeaders.mp ⟨first, works⟩
    rw [← has_date_of_sign signed] at datable
    exact exists_workingHeaders.mpr datable
  have same : ∀ n, n ∈ names (signedOnes second) ↔ n ∈ names (signedOnes first) := by
    intro n
    rw [mem_names_signedOnes, mem_names_signedOnes, mem_names_second signed works again]
  obtain ⟨host, rfl, hostedAgain, hashless⟩ := withHost_append same hosted
  exact ⟨url, first, second, host, split, works, hosted, again, hostedAgain, hashless, signed⟩

/-- What is signed of headers that signing works on. -/
def formOf (d : Digest) (r : Request) (url : UrlParts) (working host : Headers) : String :=
  canonicalRequest r.method url (signedOnes working ++ host)
    ((working.get? hashHeader).getD (d.hashText r.body))

namespace Passes

variable {url : UrlParts} {first second host : Headers}

theorem mem_names (h : Passes d p hashBody r out url first second host) (n : String) :
    n ∈ names (signedOnes second ++ host) ↔ n ∈ names (signedOnes first ++ host) := by
  rw [names_append, names_append, List.mem_append, List.mem_append, mem_names_signedOnes,
    mem_names_signedOnes, mem_names_second h.signed h.works h.worksAgain]

theorem canonicalForm_first (h : Passes d p hashBody r out url first second host) :
    canonicalForm d p hashBody r = .ok (formOf d r url first host) := by
  simp only [canonicalForm, h.works, h.split, h.hosted, bind, Except.bind]
  rfl

theorem canonicalForm_second (h : Passes d p hashBody r out url first second host) :
    canonicalForm d p hashBody out = .ok (formOf d r url second host) := by
  have frame := eq_of_sign h.signed
  have split : UrlParts.split out.url.text = .ok url := by rw [frame]; exact h.split
  simp only [canonicalForm, h.worksAgain, split, h.hostedAgain, bind, Except.bind]
  rw [frame]
  rfl

/-- The value that authenticates the signed request. -/
theorem authorization_first (h : Passes d p hashBody r out url first second host) :
    out.headers.getAll "authorization" =
      [authorization p (nameList (signedOnes first ++ host))
        (signatureOf d p (formOf d r url first host))] := by
  obtain ⟨working, parts, headers, works, split, hosted, written⟩ := sign_eq_ok_iff.mp h.signed
  obtain rfl := Except.ok.inj (h.works.symm.trans works)
  obtain rfl := Except.ok.inj (h.split.symm.trans split)
  obtain rfl := Except.ok.inj (h.hosted.symm.trans hosted)
  rw [written]
  exact getAll_assignAll_concat ..

/-- The second time nothing but the value that authenticates is written anew. -/
theorem sign_second (h : Passes d p hashBody r out url first second host) :
    sign d p hashBody out = .ok (out.reauthorized
      (authorization p (nameList (signedOnes first ++ host))
        (signatureOf d p (formOf d r url second host)))) := by
  have frame := eq_of_sign h.signed
  have split : UrlParts.split out.url.text = .ok url := by rw [frame]; exact h.split
  have kept : out.headers.assignAll second = out.headers := by
    refine assignAll_eq_self fun f mem => getAll_of_mem_again h.signed ?_
    rw [← getAll_workingHeaders h.worksAgain]
    exact List.mem_filterMap.mpr ⟨f, mem, by simp⟩
  have form : formOf d out url second host = formOf d r url second host := by rw [frame]; rfl
  have written : out.headers.assignAll (writtenHeaders d p out second url
      (signedOnes second ++ host)) = out.headers.assign "authorization"
        (authorization p (nameList (signedOnes first ++ host))
          (signatureOf d p (formOf d r url second host))) := by
    rw [← form, ← nameList_congr h.mem_names, writtenHeaders, assignAll, List.foldl_append]
    exact congrArg (Headers.assign · _ _) kept
  exact sign_eq_ok_iff.mpr
    ⟨second, url, _, h.worksAgain, split, h.hostedAgain, by rw [written]; rfl⟩

theorem sameButSignature (h : Passes d p hashBody r out url first second host) :
    SameButSignature out (out.reauthorized
      (authorization p (nameList (signedOnes first ++ host))
        (signatureOf d p (formOf d r url second host)))) := by
  have own := assign_eq_self h.authorization_first
  have field : SameField
      ("authorization", authorization p (nameList (signedOnes first ++ host))
        (signatureOf d p (formOf d r url first host)))
      ("authorization", authorization p (nameList (signedOnes first ++ host))
        (signatureOf d p (formOf d r url second host))) := .signed _ _ _
  refine ⟨rfl, rfl, rfl, rfl, ?_⟩
  have written := sameFields_assign (sameFields out.headers) field
  rwa [own] at written

theorem authorization_inj {listed s t : String}
    (same : authorization p listed s = authorization p listed t) : s = t := by
  unfold authorization at same
  exact (String.append_right_inj _).mp same

/-- Both requests are the same when both signatures are. -/
theorem eq_iff (h : Passes d p hashBody r out url first second host) :
    out.reauthorized (authorization p (nameList (signedOnes first ++ host))
        (signatureOf d p (formOf d r url second host))) = out ↔
      signatureOf d p (formOf d r url second host) =
        signatureOf d p (formOf d r url first host) := by
  constructor
  · intro same
    have values := congrArg (fun q => q.headers.getAll "authorization") same
    rw [Request.reauthorized, getAll_assign_self, h.authorization_first] at values
    exact authorization_inj (List.singleton_inj.mp values)
  · intro same
    rw [same, Request.reauthorized, assign_eq_self h.authorization_first]

end Passes

/-! ## The texts that are signed -/

theorem nodup_sortedNames (h : Headers) : (sortedNames h).Nodup :=
  (List.mergeSort_perm _ _).nodup_iff.mpr (nodup_eraseDups _)

/-- Forms of headers that have the same values but for one name differ in the line of this name
alone. -/
theorem exists_canonicalRequest {h g : Headers} {method bodyHash : String} {url : UrlParts}
    (same : ∀ n, n ∈ names h ↔ n ∈ names g) (others : ∀ m, m ≠ n → h.getAll m = g.getAll m)
    (mem : n ∈ names h) :
    ∃ before after,
      canonicalRequest method url h bodyHash = before ++ headerLine h n ++ after ∧
      canonicalRequest method url g bodyHash = before ++ headerLine g n ++ after := by
  obtain ⟨front, back, listed⟩ := List.append_of_mem (mem_sortedNames.mpr mem)
  have once := nodup_sortedNames h
  rw [listed, List.nodup_append, List.nodup_cons] at once
  obtain ⟨-, ⟨behind, -⟩, apart⟩ := once
  have lines : ∀ ms : List String, n ∉ ms → ms.map (headerLine h) = ms.map (headerLine g) := by
    intro ms absent
    refine List.map_congr_left fun m mem => ?_
    rw [headerLine, headerLine, others m fun e => absent (e ▸ mem)]
  have inFront : n ∉ front := fun mem => apart n mem n List.mem_cons_self rfl
  obtain ⟨before, after, around⟩ := Text.exists_intercalate "\n"
    ([method, canonicalPath url.path, canonicalQuery url.query] ++ front.map (headerLine g))
    (back.map (headerLine g) ++ ["", nameList h, bodyHash])
  refine ⟨before, after, ?_, ?_⟩
  · rw [← around, canonicalRequest, listed, List.map_append, List.map_cons, lines front inFront,
      lines back behind]
    simp
  · rw [← around, canonicalRequest, ← sortedNames_congr same, ← nameList_congr same, listed,
      List.map_append, List.map_cons]
    simp

theorem getAll_signedOnes (working : Headers) (n : String) :
    (signedOnes working).getAll n = if n ∈ excludedHeaders then [] else working.getAll n := by
  split
  · rename_i excluded
    exact getAll_filter_of_dropped _ (!excludedHeaders.contains ·) (by simpa using excluded)
  · rename_i signed
    exact getAll_filter _ (!excludedHeaders.contains ·) (by simpa using signed)

namespace Passes

variable {url : UrlParts} {first second host : Headers}

/-- Where the hash is there already, it is there twice both times. -/
theorem formOf_eq (h : Passes d p hashBody r out url first second host)
    (hashed : IsHashed d hashBody r) : formOf d r url second host = formOf d r url first host := by
  have same : SameValues second first := by
    intro n
    rw [getAll_second h.signed h.works h.worksAgain]
    split
    · rename_i hash
      obtain ⟨rfl, rfl⟩ := hash
      have own := hashed rfl
      rw [getAll_hash h.works, ownValues_of_named (by decide) (by simp [own]), own]
      simp
    · rfl
  rw [formOf, formOf, same.get?_eq]
  exact canonicalRequest_congr ((same.filter (!excludedHeaders.contains ·)).append host) ..

theorem getAll_signed (h : hashHeader ∉ names host) (working : Headers) :
    getAll (signedOnes working ++ host) hashHeader = working.getAll hashHeader := by
  rw [getAll_append, getAll_eq_nil h, List.append_nil, getAll_signedOnes, if_neg (by decide)]

/-- A hash that signing adds is signed once, and twice when the request is signed again. -/
theorem formOf_twice (h : Passes d p true r out url first second host)
    (unhashed : hashHeader ∉ names r.headers) :
    HashedTwice (squeezed (d.hashText r.body)) (formOf d r url first host)
      (formOf d r url second host) := by
  have once : first.getAll hashHeader = [d.hashText r.body] := by
    rw [getAll_hash h.works, ownValues_of_absent (getAll_eq_nil unhashed), List.nil_append]
  have twice : second.getAll hashHeader = [d.hashText r.body, d.hashText r.body] := by
    rw [getAll_second h.signed h.works h.worksAgain, if_pos ⟨rfl, rfl⟩]
  have others : ∀ n, n ≠ hashHeader →
      getAll (signedOnes first ++ host) n = getAll (signedOnes second ++ host) n := by
    intro n other
    have same : second.getAll n = first.getAll n := by
      rw [getAll_second h.signed h.works h.worksAgain, if_neg fun e => other e.2]
    rw [getAll_append, getAll_append, getAll_signedOnes, getAll_signedOnes, same]
  have listed : hashHeader ∈ names (signedOnes first ++ host) := by
    rw [mem_names_iff_getAll, getAll_signed h.hashless, once]
    exact List.cons_ne_nil _ _
  have line : headerLine (signedOnes first ++ host) hashHeader =
      hashHeader ++ ":" ++ squeezed (d.hashText r.body) := by
    rw [headerLine, getAll_signed h.hashless, once]
    rfl
  have lineAgain : headerLine (signedOnes second ++ host) hashHeader =
      hashHeader ++ ":" ++ (squeezed (d.hashText r.body) ++ "," ++
        squeezed (d.hashText r.body)) := by
    rw [headerLine, getAll_signed h.hashless, twice, List.map_cons, List.map_cons, List.map_nil,
      String.intercalate_cons_cons, String.intercalate_singleton]
  obtain ⟨before, after, formed, formedAgain⟩ := exists_canonicalRequest
    (fun n => (h.mem_names n).symm) others listed
  refine ⟨before, after, ?_, ?_⟩
  · rw [formOf, get?_eq_head?, once, List.head?_cons, Option.getD_some, formed, line]
  · rw [formOf, get?_eq_head?, twice, List.head?_cons, Option.getD_some, formedAgain, lineAgain]

end Passes

/-! ## What a service makes of it -/

/-- The value that authenticates is not among what is signed. -/
theorem receivedForm_reauthorized {a : Stated} (other : "authorization" ∉ a.headerNames)
    (url : UrlParts) (r : Request) (value : String) :
    receivedForm d a url (r.reauthorized value) = receivedForm d a url r := by
  have lines : a.headerNames.map (headerLine (r.reauthorized value).headers) =
      a.headerNames.map (headerLine r.headers) := by
    refine List.map_congr_left fun n mem => ?_
    have ne : "authorization" ≠ n := fun e => other (e ▸ mem)
    rw [headerLine, headerLine, Request.reauthorized, getAll_assign_of_ne _ _ ne]
  rw [receivedForm, lines]
  rfl

theorem get?_reauthorized (other : "authorization" ≠ n) (r : Request) (value : String) :
    (r.reauthorized value).headers.get? n = r.headers.get? n := by
  rw [get?_eq_head?, get?_eq_head?, Request.reauthorized, getAll_assign_of_ne _ _ other]

theorem stated?_reauthorized (r : Request) (value : String) :
    stated? (r.reauthorized value) = Stated.read? value := by
  rw [stated?, get?_eq_head?, Request.reauthorized, getAll_assign_self]
  rfl

/-- From a request that is signed again a service makes the first signature, and reads the second
one in it. -/
theorem recomputed_again {url : UrlParts} {first second host : Headers}
    (h : Passes d p true r out url first second host) (undated : Undated r)
    (readable : Readable p r) (lower : ∀ n ∈ names r.headers, IsLower n) :
    let again := out.reauthorized (authorization p (nameList (signedOnes first ++ host))
      (signatureOf d p (formOf d r url second host)))
    ∃ a, stated? again = some a ∧ a.signature = signatureOf d p (formOf d r url second host) ∧
      recomputed d p.credentials.secretKey again =
        some (signatureOf d p (formOf d r url first host)) := by
  intro again
  obtain ⟨parts, split, written⟩ := (sign_undated_iff undated readable.host).mp h.signed
  obtain rfl := Except.ok.inj (h.split.symm.trans split)
  obtain rfl := Except.ok.inj ((workingHeaders_eq undated).symm.trans h.works)
  have named : "host" ∈ names (signedOnes (undatedHeaders d p r)) :=
    (mem_signed_iff readable.host).mpr (.inl rfl)
  obtain rfl : host = [] := by
    have hosted := h.hosted
    rw [withHost, if_pos (has_eq_true_iff.mpr named), Except.ok.injEq] at hosted
    exact List.self_eq_append_right.mp hosted
  have plain := names_signed (d := d) readable
  have small : ∀ n ∈ names (signedOnes (undatedHeaders d p r)), IsLower n := by
    intro n mem
    exact forall_undated lower (by decide) n (mem_names_signedOnes.mp mem).1
  have listed := splitAt_nameList plain (List.ne_nil_of_mem named)
  have form : formOf d r url (undatedHeaders d p r) [] = signedForm d p r url := by
    rw [formOf, signedForm, get?_hash_undated undated, List.append_nil]
    rfl
  have stated : stated? again = some ⟨p.day, p.region, p.service,
      nameList (signedOnes (undatedHeaders d p r)),
      signatureOf d p (formOf d r url second [])⟩ := by
    rw [stated?_reauthorized, List.append_nil]
    exact read?_authorization readable.region readable.service (notMem_nameList plain small)
      (notMem_signatureOf _ _ _)
  refine ⟨_, stated, rfl, ?_⟩
  have unsigned : "authorization" ∉ sortedNames (signedOnes (undatedHeaders d p r)) := by
    rw [mem_sortedNames, mem_signed_iff readable.host]
    rintro (e | e | e | ⟨e, -⟩ | ⟨-, other, -⟩)
    · exact absurd e (by decide)
    · exact absurd e (by decide)
    · exact absurd e (by decide)
    · exact absurd e (by decide)
    · exact other rfl
  have dated : again.headers.get? "x-amz-date" = some p.moment := by
    rw [get?_reauthorized (by decide), written]
    exact get?_date undated url
  have received : receivedForm d ⟨p.day, p.region, p.service,
      nameList (signedOnes (undatedHeaders d p r)),
      signatureOf d p (formOf d r url second [])⟩ url again = signedForm d p r url := by
    rw [receivedForm_reauthorized (by rwa [Stated.headerNames, listed]), receivedForm,
      Stated.headerNames, listed, written, map_headerLine_signedHeaders undated url]
    rfl
  have place : UrlParts.split again.url.text = .ok url := by
    have own : out.url = r.url := url_of_sign h.signed
    exact own ▸ split
  rw [recomputed_eq stated dated place, received, form]
  rfl

/-! ## Signing again -/

/-- A signed request can be signed again. The outcome differs from it in the signature alone, which
is the one of the form with the hash of the body there twice: the same form where the hash was
there before the first time, and another where signing added it. In that case a service still makes
the first signature from what it receives. From then on the request stays as it is. -/
theorem sign_again (signed : sign d p hashBody r = .ok out) :
    ∃ again first second, sign d p hashBody out = .ok again ∧ SameButSignature out again ∧
      canonicalForm d p hashBody r = .ok first ∧ canonicalForm d p hashBody out = .ok second ∧
      (again = out ↔ signatureOf d p second = signatureOf d p first) ∧
      (IsHashed d hashBody r → second = first) ∧
      (hashBody = true → hashHeader ∉ names r.headers →
        HashedTwice (squeezed (d.hashText r.body)) first second) ∧
      (hashBody = true → Undated r → Readable p r → (∀ n ∈ names r.headers, IsLower n) →
        ∃ a, stated? again = some a ∧ a.signature = signatureOf d p second ∧
          recomputed d p.credentials.secretKey again = some (signatureOf d p first)) ∧
      sign d p hashBody again = .ok again := by
  obtain ⟨url, first, second, host, passes⟩ := exists_passes signed
  refine ⟨_, _, _, passes.sign_second, passes.sameButSignature, passes.canonicalForm_first,
    passes.canonicalForm_second, passes.eq_iff, passes.formOf_eq, ?added, ?verified, ?third⟩
  case added =>
    rintro rfl unhashed
    exact passes.formOf_twice unhashed
  case verified =>
    rintro rfl undated readable lower
    exact recomputed_again passes undated readable lower
  case third =>
    obtain ⟨url, first, second, host, later⟩ := exists_passes passes.sign_second
    rw [later.sign_second, later.eq_iff.mpr (by rw [later.formOf_eq (isHashed_of_sign signed)])]

theorem sign_again_plain :
    let r := emptyRequest "h" none [("host", "h")]
    ∃ out again first second, sign .sha256 (inRegion "eu") true r = .ok out ∧
      sign .sha256 (inRegion "eu") true out = .ok again ∧ SameButSignature out again ∧
      canonicalForm .sha256 (inRegion "eu") true r = .ok first ∧
      HashedTwice (squeezed (Digest.sha256.hashText r.body)) first second ∧
      ∃ a, stated? again = some a ∧ a.signature = signatureOf .sha256 (inRegion "eu") second ∧
        recomputed .sha256 "SK" again = some (signatureOf .sha256 (inRegion "eu") first) := by
  intro r
  have undated : Undated r := ⟨by decide, by decide⟩
  have readable : Readable (inRegion "eu") r := ⟨by decide, by decide, by decide, by decide⟩
  have lower : ∀ n ∈ names r.headers, IsLower n := by decide
  have signed := (sign_undated_iff (d := .sha256) (p := inRegion "eu") undated readable.host).mpr
    ⟨_, split_ofHost, rfl⟩
  obtain ⟨again, first, second, signedAgain, alike, formed, -, -, -, twice, verified, -⟩ :=
    sign_again signed
  exact ⟨_, again, first, second, signed, signedAgain, alike, formed, twice rfl undated.hash,
    verified rfl undated readable lower⟩

theorem hashText_brief (form : String) :
    brief.hashText form.toUTF8 =
      Digest.hexText ⟨Array.replicate (form.utf8ByteSize % 2) 0⟩ := rfl

/-- A hash of no length changes nothing but the one comma that is there when it stands twice. -/
theorem utf8ByteSize_of_hashedTwice {first second : String} (twice : HashedTwice "" first second) :
    second.utf8ByteSize = first.utf8ByteSize + 1 := by
  obtain ⟨before, after, rfl, rfl⟩ := twice
  have comma : ",".utf8ByteSize = 1 := rfl
  have nothing : "".utf8ByteSize = 0 := rfl
  simp only [String.utf8ByteSize_append, comma, nothing]
  omega

/-- Another signature is made for another form. -/
theorem signatureOf_ne {first second : String} (twice : HashedTwice "" first second) :
    signatureOf brief (inRegion "eu") second ≠ signatureOf brief (inRegion "eu") first := by
  have sizes := utf8ByteSize_of_hashedTwice twice
  unfold signatureOf textToSign
  rw [hashText_brief, hashText_brief]
  rcases Nat.mod_two_eq_zero_or_one first.utf8ByteSize with even | odd
  · have later : second.utf8ByteSize % 2 = 1 := by omega
    rw [even, later]
    decide +kernel
  · have later : second.utf8ByteSize % 2 = 0 := by omega
    rw [odd, later]
    decide +kernel

/-- A signed request whose signature another one replaces, and that does not verify then. -/
theorem signing_again_breaks :
    ∃ r out again a, Request.make "GET" "http://h/x" [] .empty none = .ok r ∧
      sign brief (inRegion "eu") true r = .ok out ∧
      sign brief (inRegion "eu") true out = .ok again ∧ again ≠ out ∧
      stated? again = some a ∧ recomputed brief "SK" again ≠ some a.signature := by
  let r := emptyRequest "h" none [("host", "h")]
  have made : Request.make "GET" "http://h/x" [] .empty none = .ok r := by rfl
  have undated : Undated r := ⟨by decide, by decide⟩
  have readable : Readable (inRegion "eu") r := ⟨by decide, by decide, by decide, by decide⟩
  have signed := (sign_undated_iff (d := brief) (p := inRegion "eu") undated readable.host).mpr
    ⟨_, split_ofHost, rfl⟩
  obtain ⟨url, first, second, host, passes⟩ := exists_passes signed
  have nothing : squeezed (brief.hashText r.body) = "" := by decide +kernel
  have differ := signatureOf_ne (nothing ▸ passes.formOf_twice undated.hash)
  obtain ⟨a, stated, signature, verified⟩ := recomputed_again passes undated readable (by decide)
  refine ⟨r, _, _, a, made, signed, passes.sign_second, mt passes.eq_iff.mp differ, stated, ?_⟩
  intro same
  rw [signature] at same
  exact differ (Option.some.inj (same.symm.trans verified))

end Signature

end IndexExplorer
