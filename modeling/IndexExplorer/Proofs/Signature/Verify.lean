import IndexExplorer.Proofs.Request.Build
import IndexExplorer.Proofs.Signature.Stated
import IndexExplorer.Proofs.Signature.Working

/-!
Checking a signed request with nothing but the request and the secret key.

* `recomputed`: the signature as a service makes it again from what it receives;
* `sign_verifies`: the signature of a signed request is the one that is made again, and what has to
  be signed is among the names it states;
* `verification_needs_readable`: why the names, the scope and the host have to be readable.
-/
namespace IndexExplorer.Signature

open Headers

/-- What a request says of its signature. -/
def stated? (r : Request) : Option Stated := (r.headers.get? "authorization").bind Stated.read?

/-- The canonical form of a request as it is received, with the headers that are said to be
signed. -/
def receivedForm (d : Digest) (a : Stated) (url : UrlParts) (r : Request) : String :=
  "\n".intercalate ([r.method, canonicalPath url.path, canonicalQuery url.query] ++
    a.headerNames.map (headerLine r.headers) ++ ["", a.names, d.hashText r.body])

/-- The signature made again from a request as it is received. -/
def recomputed (d : Digest) (secret : String) (r : Request) : Option String := do
  let a ← stated? r
  let moment ← r.headers.get? "x-amz-date"
  let url ← (UrlParts.split r.url.text).toOption
  let key := signingKey d secret a.day a.region a.service
  return Digest.hexText (d.keyed key
    (textToSign d moment a.scope (receivedForm d a url r)).toUTF8)

/-- What is signed can be read again: no name of a header has a separator in it or blanks at its
ends, there is a host, and region and service do not look like more than one part of a scope. -/
structure Readable (p : Purpose) (r : Request) : Prop where
  names : ∀ n ∈ names r.headers, ';' ∉ n.toList ∧ Text.trim n = n
  host : "host" ∈ Headers.names r.headers
  region : '/' ∉ p.region.toList
  service : '/' ∉ p.service.toList

variable {d : Digest} {p : Purpose} {r : Request}

/-! ## The signed request -/

/-- The headers that have to be signed: the host, what signing adds, and all of the request that
neither the transport manages nor the scheme leaves out. -/
def MustSign (p : Purpose) (r : Request) (n : String) : Prop :=
  n = "host" ∨ n = "x-amz-date" ∨ n = hashHeader ∨
    (n = "x-amz-security-token" ∧ ∃ t, p.credentials.sessionToken = some t ∧ t ≠ "") ∨
    (n ∈ names r.headers ∧ n ≠ "authorization" ∧ n ∉ transportHeaders ∧ n ∉ excludedHeaders)

theorem mem_signed_iff (host : "host" ∈ names r.headers) {n : String} :
    n ∈ names (signedOnes (undatedHeaders d p r)) ↔ MustSign p r n := by
  rw [mem_names_signedOnes, mem_names_undated]
  constructor
  · rintro ⟨⟨named, unmanaged, other⟩ | e | e | token, kept⟩
    · exact .inr (.inr (.inr (.inr ⟨named, other, unmanaged, kept⟩)))
    · exact .inr (.inr (.inl e))
    · exact .inr (.inl e)
    · exact .inr (.inr (.inr (.inl token)))
  · rintro (rfl | rfl | rfl | ⟨rfl, token⟩ | ⟨named, other, unmanaged, kept⟩)
    · exact ⟨.inl ⟨host, by decide, by decide⟩, by decide⟩
    · exact ⟨.inr (.inr (.inl rfl)), by decide⟩
    · exact ⟨.inr (.inl rfl), by decide⟩
    · exact ⟨.inr (.inr (.inr ⟨rfl, token⟩)), by decide⟩
    · exact ⟨.inl ⟨named, unmanaged, other⟩, kept⟩

theorem names_signed (readable : Readable p r) :
    ∀ n ∈ names (signedOnes (undatedHeaders d p r)), ';' ∉ n.toList ∧ Text.trim n = n := by
  intro n mem
  exact forall_undated readable.names (by decide) n (mem_names_signedOnes.mp mem).1

theorem stated?_signed (d : Digest) (url : UrlParts) (lower : ∀ n ∈ names r.headers, IsLower n)
    (undated : Undated r) (readable : Readable p r) :
    stated? { r with headers := signedHeaders d p r url } =
      some ⟨p.day, p.region, p.service, nameList (signedOnes (undatedHeaders d p r)),
        signatureOf d p (signedForm d p r url)⟩ := by
  have small : ∀ n ∈ names (signedOnes (undatedHeaders d p r)), IsLower n := by
    intro n mem
    exact forall_undated lower (by decide) n (mem_names_signedOnes.mp mem).1
  rw [stated?, get?_authorization undated, Option.bind_some, signedValue]
  exact read?_authorization readable.region readable.service
    (notMem_nameList (names_signed readable) small) (notMem_signatureOf _ _ _)

theorem recomputed_eq {secret moment : String} {a : Stated} {url : UrlParts}
    (stated : stated? r = some a) (dated : r.headers.get? "x-amz-date" = some moment)
    (split : UrlParts.split r.url.text = .ok url) :
    recomputed d secret r =
      some (Digest.hexText (d.keyed (signingKey d secret a.day a.region a.service)
        (textToSign d moment a.scope (receivedForm d a url r)).toUTF8)) := by
  simp only [recomputed, stated, dated, split, Except.toOption, bind, Option.bind, pure]

/-- The signature that is made again is the keyed hash of what was signed, in the scope that is
stated. -/
theorem recomputed_signed {url : UrlParts} {a : Stated} (secret : String) (undated : Undated r)
    (split : UrlParts.split r.url.text = .ok url)
    (stated : stated? { r with headers := signedHeaders d p r url } = some a)
    (list : a.names = nameList (signedOnes (undatedHeaders d p r)))
    (listed : a.headerNames = sortedNames (signedOnes (undatedHeaders d p r))) :
    recomputed d secret { r with headers := signedHeaders d p r url } =
      some (Digest.hexText (d.keyed (signingKey d secret a.day a.region a.service)
        (textToSign d p.moment a.scope (signedForm d p r url)).toUTF8)) := by
  have form : receivedForm d a url { r with headers := signedHeaders d p r url } =
      signedForm d p r url := by
    rw [receivedForm, listed, list, map_headerLine_signedHeaders undated url]
    rfl
  rw [recomputed_eq stated (get?_date undated url) split, form]

/-- A signed request states the names that have to be signed, and its signature is the one that is
made again from what it carries. -/
theorem sign_verifies {method url : String} {fields : Members} {body : ByteArray}
    {timeout : Option Json} {out : Request}
    (made : Request.make method url fields body timeout = .ok r) (undated : Undated r)
    (readable : Readable p r) (signed : sign d p true r = .ok out) :
    ∃ a, stated? out = some a ∧ recomputed d p.credentials.secretKey out = some a.signature ∧
      ∀ n, n ∈ a.headerNames ↔ MustSign p r n := by
  obtain ⟨url, split, rfl⟩ := (sign_undated_iff undated readable.host).mp signed
  have stated := stated?_signed d url (Request.isLower_of_make made) undated readable
  have host : names (signedOnes (undatedHeaders d p r)) ≠ [] :=
    List.ne_nil_of_mem ((mem_signed_iff readable.host).mpr (.inl rfl))
  have listed := splitAt_nameList (names_signed readable) host
  refine ⟨_, stated, ?_, ?_⟩
  · rw [recomputed_signed _ undated split stated rfl listed]
    rfl
  · intro n
    rw [Stated.headerNames, listed, mem_sortedNames, mem_signed_iff readable.host]

/-! ## Requests for `/x` of a host, and of none -/

/-- Signing in a region, at a moment of the year 2015. -/
def inRegion (region : String) : Purpose :=
  ⟨{ accessKey := "AK", secretKey := "SK" }, region, "es", 1440938160⟩

/-- A request without content. -/
def emptyRequest (host : String) (port : Option Int) (headers : Headers) : Request :=
  ⟨"GET", ⟨"http", "", host, port, "/x", none, none⟩, headers, .empty, none⟩

theorem split_ofHost :
    UrlParts.split (Url.text ⟨"http", "", "h", none, "/x", none, none⟩) =
      .ok ⟨"http", "h", "/x", "", ""⟩ := by
  have text : Url.text ⟨"http", "", "h", none, "/x", none, none⟩ = "http://h/x" := by
    rfl
  rw [text]
  rfl

theorem sign_verifies_note :
    let r := emptyRequest "h" none [("host", "h"), ("x-note", "1")]
    Request.make "GET" "http://h/x" [("X-Note", .str "1")] .empty none = .ok r ∧
      Undated r ∧ Readable (inRegion "eu") r ∧
      ∃ out, sign .sha256 (inRegion "eu") true r = .ok out ∧
        ∃ a, stated? out = some a ∧
          recomputed .sha256 (inRegion "eu").credentials.secretKey out = some a.signature ∧
          ∀ n, n ∈ a.headerNames ↔ MustSign (inRegion "eu") r n := by
  intro r
  have made : Request.make "GET" "http://h/x" [("X-Note", .str "1")] .empty none = .ok r := by rfl
  have undated : Undated r := ⟨by decide, by decide⟩
  have readable : Readable (inRegion "eu") r :=
    ⟨by decide, by decide, by decide, by decide⟩
  have signed := (sign_undated_iff (d := .sha256) (p := inRegion "eu") undated readable.host).mpr
    ⟨_, split_ofHost, rfl⟩
  exact ⟨made, undated, readable, _, signed, sign_verifies made undated readable signed⟩

/-! ## What cannot be read again -/

/-- A keyed hash that tells lengths, over a hash that tells odd ones from even ones. -/
def brief : Digest :=
  ⟨fun bytes => ⟨Array.replicate (bytes.size % 2) 0⟩, fun _ message => ⟨#[message.size.toUInt8]⟩⟩

/-- The same keyed hash over one that tells nothing. -/
def blind : Digest := ⟨fun _ => .empty, brief.keyed⟩

/-- The value that authenticates is there whatever was signed. -/
theorem stated?_assignAll (r : Request) (working : Headers) (value : String) :
    stated? { r with headers := r.headers.assignAll (working ++ [("authorization", value)]) } =
      Stated.read? value := by
  rw [stated?, get?_eq_head?, getAll_assignAll_concat]
  rfl

/-- A name with a blank at its end is stated without it. -/
theorem blank_not_stated :
    let r := emptyRequest "h" none [("host", "h"), ("x-note ", "1")]
    ∃ out a, sign brief (inRegion "eu") true r = .ok out ∧ stated? out = some a ∧
      MustSign (inRegion "eu") r "x-note " ∧ "x-note " ∉ a.headerNames := by
  intro r
  have undated : Undated r := ⟨by decide, by decide⟩
  have signed := (sign_undated_iff (d := brief) (p := inRegion "eu") undated (by decide)).mpr
    ⟨_, split_ofHost, rfl⟩
  have once : ((names (signedOnes (undatedHeaders brief (inRegion "eu") r))).map
      Text.trim).eraseDups = ["host", "x-note", "x-amz-content-sha256", "x-amz-date"] := by decide
  have sorted : (["host", "x-note", "x-amz-content-sha256", "x-amz-date"].mergeSort
      fun a b => !(b < a)) = ["host", "x-amz-content-sha256", "x-amz-date", "x-note"] :=
    mergeSort_eq_of_perm (by decide) (by decide)
  have list : nameList (signedOnes (undatedHeaders brief (inRegion "eu") r)) =
      "host;x-amz-content-sha256;x-amz-date;x-note" := by
    rw [nameList_eq_trimmed, once, sorted]
    rfl
  obtain ⟨a, stated, listed⟩ : ∃ a,
      Stated.read? (signedValue brief (inRegion "eu") r ⟨"http", "h", "/x", "", ""⟩) = some a ∧
        a.names = "host;x-amz-content-sha256;x-amz-date;x-note" := by
    rw [signedValue, list]
    exact ⟨_, read?_authorization (by decide) (by decide) (by decide) (notMem_signatureOf _ _ _),
      rfl⟩
  refine ⟨_, a, signed, (stated?_assignAll r _ _).trans stated, ?_, ?_⟩
  · exact .inr (.inr (.inr (.inr ⟨by decide, by decide, by decide, by decide⟩)))
  · rw [Stated.headerNames, listed]
    decide

/-- Read from its end, a scope with a slash in its region begins too late. -/
theorem slash_not_recomputed :
    let r := emptyRequest "h" none [("host", "h")]
    ∃ out a, sign blind (inRegion "e/u") true r = .ok out ∧ stated? out = some a ∧
      recomputed blind "SK" out ≠ some a.signature := by
  intro r
  have undated : Undated r := ⟨by decide, by decide⟩
  have signed := (sign_undated_iff (d := blind) (p := inRegion "e/u") undated (by decide)).mpr
    ⟨_, split_ofHost, rfl⟩
  have plain : ∀ n ∈ names (signedOnes (undatedHeaders blind (inRegion "e/u") r)),
      ';' ∉ n.toList ∧ Text.trim n = n := by decide
  have lower : ∀ n ∈ names (signedOnes (undatedHeaders blind (inRegion "e/u") r)),
      IsLower n := by decide
  have parts : (Ip.splitAt '/' (credential (inRegion "e/u")).toList).reverse =
      "aws4_request".toList :: "es".toList :: "u".toList :: "e".toList ::
        ["20150830".toList, "AWS4-HMAC-SHA256 Credential=AK".toList] := by rfl
  have read := read?_of_credential parts (notMem_nameList plain lower)
    (notMem_signatureOf blind (inRegion "e/u")
      (signedForm blind (inRegion "e/u") r ⟨"http", "h", "/x", "", ""⟩))
  have stated := (stated?_assignAll r (undatedHeaders blind (inRegion "e/u") r) _).trans read
  refine ⟨_, _, signed, stated, ?_⟩
  rw [recomputed_signed "SK" undated split_ofHost stated rfl
    (splitAt_nameList plain (by decide))]
  decide +kernel

/-- A request to a port without a host. -/
def hostless : Request := emptyRequest "" (some 8080) []

theorem split_hostless :
    UrlParts.split hostless.url.text = .ok ⟨"http", ":8080", "/x", "", ""⟩ := by
  have text : hostless.url.text = "http://:8080/x" := by rfl
  rw [text]
  rfl

/-- What signing works on there. -/
def hostlessHeaders : Headers := [(hashHeader, ""), ("x-amz-date", "20150830T123600Z")]

/-- The headers that are signed there. -/
def hostlessSigned : Headers := hostlessHeaders ++ [("host", "None:8080")]

theorem workingHeaders_hostless :
    workingHeaders brief (inRegion "eu") true hostless = .ok hostlessHeaders := by
  have undated : Undated hostless := ⟨by decide, by decide⟩
  have working : undatedHeaders brief (inRegion "eu") hostless = hostlessHeaders := by
    decide +kernel
  rw [workingHeaders_eq undated, working]

theorem withHost_hostless :
    withHost ⟨"http", ":8080", "/x", "", ""⟩ (signedOnes hostlessHeaders) = .ok hostlessSigned := by
  have missing : (signedOnes hostlessHeaders).has "host" = false := by decide
  have name : (UrlParts.mk "http" ":8080" "/x" "" "").lowerHost = "" := by rfl
  have port : (UrlParts.mk "http" ":8080" "/x" "" "").port? = .ok (some 8080) := by rfl
  have host : hostOf ⟨"http", ":8080", "/x", "", ""⟩ = .ok "None:8080" := by
    unfold hostOf
    rw [name, port]
    rfl
  rw [withHost, missing, host]
  rfl

theorem sortedNames_hostless :
    sortedNames hostlessSigned = ["host", "x-amz-content-sha256", "x-amz-date"] := by
  have once : (hostlessSigned.map (·.1)).eraseDups =
      ["x-amz-content-sha256", "x-amz-date", "host"] := by rfl
  rw [sortedNames, once]
  exact mergeSort_eq_of_perm (by decide) (by decide)

theorem nameList_hostless :
    nameList hostlessSigned = "host;x-amz-content-sha256;x-amz-date" := by
  have trimmed : ∀ n ∈ names hostlessSigned, Text.trim n = n := by decide
  rw [nameList_eq trimmed, sortedNames_hostless]
  rfl

/-- The form that is signed there. -/
def hostlessForm : String :=
  "GET\n/x\n\nhost:None:8080\nx-amz-content-sha256:\nx-amz-date:20150830T123600Z\n\n" ++
    "host;x-amz-content-sha256;x-amz-date\n"

def hostlessSignature : String := signatureOf brief (inRegion "eu") hostlessForm

def hostlessValue : String :=
  authorization (inRegion "eu") "host;x-amz-content-sha256;x-amz-date" hostlessSignature

/-- What is sent for it. -/
def hostlessSent : Request :=
  { hostless with headers := hostlessHeaders ++ [("authorization", hostlessValue)] }

theorem sign_hostless : sign brief (inRegion "eu") true hostless = .ok hostlessSent := by
  have bodyHash : (hostlessHeaders.get? hashHeader).getD (brief.hashText hostless.body) = "" := by
    decide
  have form : canonicalRequest "GET" ⟨"http", ":8080", "/x", "", ""⟩ hostlessSigned "" =
      hostlessForm := by
    rw [canonicalRequest, sortedNames_hostless, nameList_hostless]
    rfl
  refine sign_eq_ok_iff.mpr ⟨hostlessHeaders, _, hostlessSigned, workingHeaders_hostless,
    split_hostless, withHost_hostless, ?_⟩
  have method : hostless.method = "GET" := rfl
  rw [writtenHeaders, bodyHash, method, form, nameList_hostless]
  rfl

/-- A port without a host is signed as the host, which the request then does not carry. -/
theorem hostless_not_recomputed :
    ∃ out a, sign brief (inRegion "eu") true hostless = .ok out ∧ stated? out = some a ∧
      recomputed brief "SK" out ≠ some a.signature := by
  have carried : hostlessSent.headers.get? "authorization" = some hostlessValue := by rfl
  have read : Stated.read? hostlessValue = some ⟨(inRegion "eu").day, "eu", "es",
      "host;x-amz-content-sha256;x-amz-date", hostlessSignature⟩ :=
    read?_authorization (by decide) (by decide) (by decide) (notMem_signatureOf _ _ _)
  have stated : stated? hostlessSent = some ⟨(inRegion "eu").day, "eu", "es",
      "host;x-amz-content-sha256;x-amz-date", hostlessSignature⟩ := by
    rw [stated?, carried, Option.bind_some, read]
  have dated : hostlessSent.headers.get? "x-amz-date" = some "20150830T123600Z" := by rfl
  refine ⟨_, _, sign_hostless, stated, ?_⟩
  rw [recomputed_eq stated dated split_hostless]
  decide +kernel

/-- A header name with a blank at its end, a region with a slash, or a URL without a host: what is
signed then is not what can be read from the signed request. -/
theorem verification_needs_readable :
    (∃ r out a, Request.make "GET" "http://h/x" [("X-Note ", .str "1")] .empty none = .ok r ∧
      sign brief (inRegion "eu") true r = .ok out ∧ stated? out = some a ∧
      MustSign (inRegion "eu") r "x-note " ∧ "x-note " ∉ a.headerNames) ∧
    (∃ r out a, Request.make "GET" "http://h/x" [] .empty none = .ok r ∧
      sign blind (inRegion "e/u") true r = .ok out ∧ stated? out = some a ∧
      recomputed blind "SK" out ≠ some a.signature) ∧
    ∃ r out a, Request.make "GET" "http://:8080/x" [] .empty none = .ok r ∧
      sign brief (inRegion "eu") true r = .ok out ∧ stated? out = some a ∧
      recomputed brief "SK" out ≠ some a.signature := by
  refine ⟨?blank, ?slash, ?hostless⟩
  case blank =>
    obtain ⟨out, a, signed⟩ := blank_not_stated
    exact ⟨_, out, a, by rfl, signed⟩
  case slash =>
    obtain ⟨out, a, signed⟩ := slash_not_recomputed
    exact ⟨_, out, a, by rfl, signed⟩
  case hostless =>
    obtain ⟨out, a, signed⟩ := hostless_not_recomputed
    exact ⟨hostless, out, a, by rfl, signed⟩

end IndexExplorer.Signature
