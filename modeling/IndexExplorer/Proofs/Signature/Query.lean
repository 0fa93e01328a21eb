import IndexExplorer.Proofs.Request.Build
import IndexExplorer.Proofs.Signature.Verify
import IndexExplorer.Proofs.Url.Query

/-!
The query that is signed, and the one that a service makes of the request.

A service decodes each name and value of a query and encodes it again in one way only. Signing
writes them as they stand in the URL, where more characters may stand unencoded.

* `recode_eq_self_iff`: which texts stay as they are;
* `publishedQuery`, `canonicalQuery_eq_iff`: both queries are the same exactly when every name and
  value of the query is such a text;
* **`sign_query`**: what is signed of a request is the query of its URL, and the form that a service
  hashes is the same exactly for those queries;
* `colon_not_published`: a query with a colon, as search texts have it, is none of them.
-/
namespace IndexExplorer

namespace Text.Percent

/-! ## Names and values -/

/-- A byte as it is encoded where nothing but letters, digits and `-._~` is kept. -/
def recodedByte (b : UInt8) : List Char :=
  if isUnreserved (Char.ofNat b.toNat) then [Char.ofNat b.toNat] else ofByte b

/-- A text decoded and encoded again. -/
def recode (cs : List Char) : List Char := (bytesOf cs).flatMap recodedByte

/-- A text of characters that never need encoding, and of all other bytes encoded. -/
inductive IsRecoded : List Char → Prop where
  | nil : IsRecoded []
  | plain {c : Char} {cs : List Char} (kept : isUnreserved c) (rest : IsRecoded cs) :
      IsRecoded (c :: cs)
  | escape {b : UInt8} {cs : List Char} (lost : isUnreserved (Char.ofNat b.toNat) = false)
      (rest : IsRecoded cs) : IsRecoded (ofByte b ++ cs)

theorem ascii_of_isUnreserved {c : Char} (h : isUnreserved c) : c.toNat < 0x80 := by
  simp only [isUnreserved, Bool.or_eq_true, decide_eq_true_eq] at h
  rcases h with (((alphanumeric | rfl) | rfl) | rfl) | rfl
  · exact Url.ascii_of_isAlphanum alphanumeric
  · decide
  · decide
  · decide
  · decide

theorem bytesOf_unreserved {c : Char} (h : isUnreserved c) (cs : List Char) :
    bytesOf (c :: cs) = UInt8.ofNat c.toNat :: bytesOf cs := by
  have percent : c ≠ '%' := by
    rintro rfl
    exact absurd h (by decide)
  have all : ∀ n : Fin 0x80, String.utf8EncodeChar (Char.ofNat n.val) =
      [UInt8.ofNat (Char.ofNat n.val).toNat] := by decide
  have one : String.utf8EncodeChar c = [UInt8.ofNat c.toNat] :=
    Url.forall_ascii (p := fun c => String.utf8EncodeChar c = [UInt8.ofNat c.toNat]) all
      (ascii_of_isUnreserved h)
  rw [bytesOf_cons percent, one, List.singleton_append]

theorem recodedByte_unreserved {c : Char} (h : isUnreserved c) :
    recodedByte (UInt8.ofNat c.toNat) = [c] := by
  have ascii := ascii_of_isUnreserved h
  have same : (UInt8.ofNat c.toNat).toNat = c.toNat := by
    rw [UInt8.toNat_ofNat']
    omega
  rw [recodedByte, same, Char.ofNat_toNat, if_pos h]

/-- What was encoded again is of this kind. -/
theorem isRecoded_recode (cs : List Char) : IsRecoded (recode cs) := by
  rw [recode]
  induction bytesOf cs with
  | nil => exact .nil
  | cons b bytes ih =>
    rw [List.flatMap_cons, recodedByte]
    split
    · rename_i kept
      exact .plain kept ih
    · rename_i lost
      exact .escape (by simpa using lost) ih

/-- Only such texts stay as they are. -/
theorem recode_eq_self_iff {cs : List Char} : recode cs = cs ↔ IsRecoded cs := by
  constructor
  · intro same
    exact same ▸ isRecoded_recode cs
  · intro recoded
    induction recoded with
    | nil => rfl
    | plain kept rest ih =>
      rw [recode, bytesOf_unreserved kept, List.flatMap_cons, recodedByte_unreserved kept]
      exact congrArg (_ :: ·) ih
    | @escape b cs lost rest ih =>
      rw [recode, bytesOf_ofByte, List.flatMap_cons, recodedByte, lost]
      exact congrArg (ofByte b ++ ·) ih

instance (cs : List Char) : Decidable (IsRecoded cs) := decidable_of_iff _ recode_eq_self_iff

theorem encoded_of_isRecoded {cs : List Char} (h : IsRecoded cs) : Encoded isUnreserved cs := by
  induction h with
  | nil => exact nofun
  | plain kept rest ih =>
    intro c mem
    rcases List.mem_cons.mp mem with rfl | mem
    · exact .inl kept
    · exact ih c mem
  | escape lost rest ih =>
    intro c mem
    rcases List.mem_append.mp mem with mem | mem
    · exact .inr (mem_marks_of_mem_ofByte mem)
    · exact ih c mem

end Text.Percent

namespace Signature

open Text UrlParts

/-! ## Queries -/

/-- A name and value of a query, each decoded and encoded again. -/
def recodedPair (cs : List Char) : String × String :=
  let (name, value) := cutAt '=' cs
  (String.ofList (Percent.recode name), String.ofList (Percent.recode value))

/-- A name and value as they stand in a query. -/
def pairText (pair : String × String) : String := pair.1 ++ "=" ++ pair.2

/-- The query in the form that the scheme publishes: names and values encoded in one way, in order
of the encoded name and value. -/
def publishedQuery (query : String) : String :=
  if query.isEmpty then ""
  else
    "&".intercalate
      ((((Ip.splitAt '&' query.toList).map recodedPair).mergeSort pairLe).map pairText)

theorem canonicalQuery_of_ne {query : String} (full : query ≠ "") :
    canonicalQuery query = "&".intercalate
      ((((Ip.splitAt '&' query.toList).map queryPair).mergeSort pairLe).map pairText) := by
  rw [canonicalQuery, if_neg (by simpa using full)]
  rfl

theorem publishedQuery_of_ne {query : String} (full : query ≠ "") :
    publishedQuery query = "&".intercalate
      ((((Ip.splitAt '&' query.toList).map recodedPair).mergeSort pairLe).map pairText) := by
  rw [publishedQuery, if_neg (by simpa using full)]

/-- The form of a request that a service hashes. -/
def publishedRequest (method : String) (url : UrlParts) (signed : Headers) (bodyHash : String) :
    String :=
  "\n".intercalate ([method, canonicalPath url.path, publishedQuery url.query] ++
    (sortedNames signed).map (headerLine signed) ++ ["", nameList signed, bodyHash])

/-- All names and values of a query are encoded already as they are published. -/
def IsPublished (query : String) : Prop :=
  ∀ part ∈ Ip.splitAt '&' query.toList,
    Percent.IsRecoded (cutAt '=' part).1 ∧ Percent.IsRecoded (cutAt '=' part).2

instance (query : String) : Decidable (IsPublished query) :=
  inferInstanceAs (Decidable (∀ part ∈ _, _))

theorem recodedPair_of_isRecoded {part : List Char} (name : Percent.IsRecoded (cutAt '=' part).1)
    (value : Percent.IsRecoded (cutAt '=' part).2) : recodedPair part = queryPair part := by
  rw [recodedPair, queryPair]
  simp only [Percent.recode_eq_self_iff.mpr name, Percent.recode_eq_self_iff.mpr value]

/-- Pairs can be written one behind the other: no mark that divides them stands in them. -/
def IsPlainPair (pair : String × String) : Prop :=
  '&' ∉ pair.1.toList ∧ '=' ∉ pair.1.toList ∧ '&' ∉ pair.2.toList

theorem notMem_cutAt (sep : Char) {mark : Char} {cs : List Char} (h : mark ∉ cs) :
    mark ∉ (cutAt sep cs).1 ∧ mark ∉ (cutAt sep cs).2 := by
  have front : (cutAt sep cs).1 ⊆ cs := (List.takeWhile_prefix _).subset
  have back : (cutAt sep cs).2 ⊆ cs :=
    ((List.drop_suffix 1 _).trans (List.dropWhile_suffix _)).subset
  exact ⟨fun mem => h (front mem), fun mem => h (back mem)⟩

theorem isPlainPair_queryPair {part : List Char} (h : '&' ∉ part) :
    IsPlainPair (queryPair part) := by
  have cut := notMem_cutAt '=' h
  have once : '=' ∉ (cutAt '=' part).1 := fun mem => by
    simpa using not_of_mem_before mem
  rw [queryPair, IsPlainPair]
  simpa using ⟨cut.1, once, cut.2⟩

theorem isPlainPair_recodedPair (part : List Char) : IsPlainPair (recodedPair part) := by
  have plain : ∀ cs : List Char, '&' ∉ Percent.recode cs ∧ '=' ∉ Percent.recode cs := by
    intro cs
    have encoded := Percent.encoded_of_isRecoded (Percent.isRecoded_recode cs)
    exact ⟨encoded.notMem (by decide) (by decide), encoded.notMem (by decide) (by decide)⟩
  rw [recodedPair, IsPlainPair]
  simpa using ⟨(plain _).1, (plain _).2, (plain _).1⟩

theorem queryPair_pairText {pair : String × String} (plain : IsPlainPair pair) :
    queryPair (pairText pair).toList = pair := by
  have text : (pairText pair).toList = pair.1.toList ++ '=' :: pair.2.toList := by
    simp [pairText]
  rw [queryPair, text, cutAt_append plain.2.1]
  simp

/-- Written pairs are read again. -/
theorem pairs_written {pairs : List (String × String)} (some : pairs ≠ [])
    (plain : ∀ pair ∈ pairs, IsPlainPair pair) :
    (Ip.splitAt '&' ("&".intercalate (pairs.map pairText)).toList).map queryPair = pairs := by
  have sep : "&".toList = ['&'] := by decide
  have parts : ∀ part ∈ (pairs.map pairText).map String.toList, '&' ∉ part := by
    intro part mem
    obtain ⟨text, written, rfl⟩ := List.mem_map.mp mem
    obtain ⟨pair, given, rfl⟩ := List.mem_map.mp written
    obtain ⟨name, -, value⟩ := plain pair given
    simpa [pairText] using ⟨name, value⟩
  have there : (pairs.map pairText).map String.toList ≠ [] := by simpa using some
  rw [String.toList_intercalate, sep, Ip.splitAt_intercalate parts there, List.map_map,
    List.map_map]
  refine (List.map_congr_left fun pair given => ?_).trans (List.map_id pairs)
  exact queryPair_pairText (plain pair given)

theorem mem_sortedPairs {f : List Char → String × String} {parts : List (List Char)}
    {pair : String × String} :
    pair ∈ (parts.map f).mergeSort pairLe ↔ ∃ part ∈ parts, f part = pair := by
  rw [List.mem_mergeSort, List.mem_map]

/-- What is written is read again, so that the same text is written for the same pairs only. -/
theorem sortedPairs_inj {f g : List Char → String × String} {parts : List (List Char)}
    (some : parts ≠ []) (first : ∀ part ∈ parts, IsPlainPair (f part))
    (second : ∀ part ∈ parts, IsPlainPair (g part))
    (same : "&".intercalate (((parts.map f).mergeSort pairLe).map pairText) =
      "&".intercalate (((parts.map g).mergeSort pairLe).map pairText)) :
    (parts.map f).mergeSort pairLe = (parts.map g).mergeSort pairLe := by
  have full : ∀ h : List Char → String × String, (parts.map h).mergeSort pairLe ≠ [] := by
    intro h none
    have length := congrArg List.length none
    simp [some] at length
  have plain : ∀ h : List Char → String × String, (∀ part ∈ parts, IsPlainPair (h part)) →
      ∀ pair ∈ (parts.map h).mergeSort pairLe, IsPlainPair pair := by
    intro h own pair mem
    obtain ⟨part, there, rfl⟩ := mem_sortedPairs.mp mem
    exact own part there
  rw [← pairs_written (full f) (plain f first), same, pairs_written (full g) (plain g second)]

/-- Both queries are the same exactly when every name and value is encoded as it is published. -/
theorem canonicalQuery_eq_iff {query : String} :
    canonicalQuery query = publishedQuery query ↔ IsPublished query := by
  by_cases full : query = ""
  · subst full
    refine iff_of_true rfl fun part mem => ?_
    obtain rfl : part = [] := by simpa [Ip.splitAt] using mem
    exact ⟨.nil, .nil⟩
  rw [canonicalQuery_of_ne full, publishedQuery_of_ne full]
  constructor
  · intro same part mem
    have raw : ∀ part ∈ Ip.splitAt '&' query.toList, IsPlainPair (queryPair part) :=
      fun part there => isPlainPair_queryPair (Ip.not_mem_of_mem_splitAt there)
    have sorted := sortedPairs_inj (Ip.splitAt_ne_nil '&' query.toList) raw
      (fun part _ => isPlainPair_recodedPair part) same
    have there : queryPair part ∈ ((Ip.splitAt '&' query.toList).map queryPair).mergeSort pairLe :=
      mem_sortedPairs.mpr ⟨part, mem, rfl⟩
    rw [sorted] at there
    obtain ⟨other, -, pair⟩ := mem_sortedPairs.mp there
    have name := congrArg (·.1.toList) pair
    have value := congrArg (·.2.toList) pair
    simp only [recodedPair, queryPair, String.toList_ofList] at name value
    exact ⟨name ▸ Percent.isRecoded_recode _, value ▸ Percent.isRecoded_recode _⟩
  · intro published
    have pairs : (Ip.splitAt '&' query.toList).map queryPair =
        (Ip.splitAt '&' query.toList).map recodedPair :=
      List.map_congr_left fun part mem =>
        (recodedPair_of_isRecoded (published part mem).1 (published part mem).2).symm
    rw [pairs]

theorem canonicalRequest_eq_iff {method bodyHash : String} {url : UrlParts} {signed : Headers} :
    canonicalRequest method url signed bodyHash = publishedRequest method url signed bodyHash ↔
      IsPublished url.query := by
  have around : ∀ query : String, [method, canonicalPath url.path, query] ++
      (sortedNames signed).map (headerLine signed) ++ ["", nameList signed, bodyHash] =
      [method, canonicalPath url.path] ++ query ::
        ((sortedNames signed).map (headerLine signed) ++ ["", nameList signed, bodyHash]) := by
    intro query
    simp
  rw [← canonicalQuery_eq_iff, canonicalRequest, publishedRequest, around, around]
  exact ⟨fun same => Text.eq_of_intercalate _ _ same, fun same => by rw [same]⟩

/-! ## The query that is signed -/

/-- What is signed of a request is the query of its URL as it stands there. The form that a service
hashes is the same exactly when every name and value of this query is encoded as it is
published. -/
theorem sign_query {d : Digest} {p : Purpose} {hashBody : Bool} {r out : Request}
    {method url : String} {fields : Members} {body : ByteArray} {timeout : Option Json}
    (made : Request.make method url fields body timeout = .ok r)
    (signed : sign d p hashBody r = .ok out) :
    ∃ parts headers bodyHash, UrlParts.split r.url.text = .ok parts ∧
      parts.query = r.url.query.getD "" ∧
      canonicalForm d p hashBody r = .ok (canonicalRequest r.method parts headers bodyHash) ∧
      out.headers.getAll "authorization" = [authorization p (nameList headers)
        (signatureOf d p (canonicalRequest r.method parts headers bodyHash))] ∧
      (canonicalQuery parts.query = publishedQuery parts.query ↔ IsPublished parts.query) ∧
      (canonicalRequest r.method parts headers bodyHash =
        publishedRequest r.method parts headers bodyHash ↔ IsPublished parts.query) := by
  obtain ⟨parts, headers, bodyHash, apart, form, value⟩ := exists_canonicalForm signed
  obtain ⟨u, given, read, -, rfl⟩ := Request.make_eq_ok_iff.mp made
  exact ⟨parts, headers, bodyHash, apart, Url.query_of_read read apart, form, value,
    canonicalQuery_eq_iff, canonicalRequest_eq_iff⟩

/-- A request with a query and without content. -/
def queryRequest (query : String) : Request :=
  ⟨"GET", ⟨"http", "", "h", none, "/x", some query, none⟩, [("host", "h")], .empty, none⟩

theorem sign_queryRequest {query : String} {parts : UrlParts}
    (apart : UrlParts.split (queryRequest query).url.text = .ok parts) :
    ∃ out, sign .sha256 (inRegion "eu") true (queryRequest query) = .ok out := by
  have undated : Undated (queryRequest query) := ⟨by simp [queryRequest, Headers.names], by
    simp [queryRequest, Headers.names, hashHeader]⟩
  have host : "host" ∈ Headers.names (queryRequest query).headers := List.mem_cons_self
  exact ⟨_, (sign_undated_iff undated host).mpr ⟨parts, apart, rfl⟩⟩

theorem sign_query_escaped :
    let r := queryRequest "q=a%3Ab&n=1"
    Request.make "GET" "http://h/x?q=a%3Ab&n=1" [] .empty none = .ok r ∧
      ∃ out, sign .sha256 (inRegion "eu") true r = .ok out ∧
        ∃ parts headers bodyHash, parts.query = "q=a%3Ab&n=1" ∧
          canonicalForm .sha256 (inRegion "eu") true r =
            .ok (canonicalRequest "GET" parts headers bodyHash) ∧
          canonicalRequest "GET" parts headers bodyHash =
            publishedRequest "GET" parts headers bodyHash := by
  intro r
  have made : Request.make "GET" "http://h/x?q=a%3Ab&n=1" [] .empty none = .ok r := by rfl
  have text : (queryRequest "q=a%3Ab&n=1").url.text = "http://h/x?q=a%3Ab&n=1" := by decide
  have apart : UrlParts.split r.url.text = .ok ⟨"http", "h", "/x", "q=a%3Ab&n=1", ""⟩ := by
    rw [text]
    rfl
  obtain ⟨out, signed⟩ := sign_queryRequest apart
  obtain ⟨parts, headers, bodyHash, -, query, form, -, -, published⟩ := sign_query made signed
  have plain : IsPublished parts.query := by
    rw [query]
    decide
  exact ⟨made, out, signed, parts, headers, bodyHash, query, form, published.mpr plain⟩

/-- A colon stands unencoded in a URL, and so in what is signed; a service encodes it. -/
theorem colon_not_published :
    ∃ r out parts, Request.make "GET" "http://h/x?q=a:b" [] .empty none = .ok r ∧
      sign .sha256 (inRegion "eu") true r = .ok out ∧ UrlParts.split r.url.text = .ok parts ∧
      canonicalQuery parts.query = "q=a:b" ∧ publishedQuery parts.query = "q=a%3Ab" := by
  have apart : UrlParts.split (queryRequest "q=a:b").url.text =
      .ok ⟨"http", "h", "/x", "q=a:b", ""⟩ := by rfl
  obtain ⟨out, signed⟩ := sign_queryRequest apart
  refine ⟨_, out, _, by rfl, signed, apart, ?_, ?_⟩
  · rw [canonicalQuery_of_ne (by decide)]
    have pairs : (Ip.splitAt '&' "q=a:b".toList).map queryPair = [("q", "a:b")] := by decide
    rw [pairs, List.mergeSort_singleton]
    rfl
  · rw [publishedQuery_of_ne (by decide)]
    have pairs : (Ip.splitAt '&' "q=a:b".toList).map recodedPair = [("q", "a%3Ab")] := by decide
    rw [pairs, List.mergeSort_singleton]
    rfl

end Signature

end IndexExplorer
