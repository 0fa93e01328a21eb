import IndexExplorer.Proofs.Signature.Values

/-!
What signing leaves as it is.

* `Request.rebuilt`, `Request.rebuilt_eq_self`: a request that is made again out of its parts gets
  further headers only if it lacks what every request has;
* `mem_names_of_sign`, `new_of_sign`: a signed request has all names that it had, and new ones only
  of headers that authenticate;
* `getAll_sign_of_kept`: the values of all other headers stay;
* **`sign_adds_authentication`**: signing adds headers that authenticate, and does nothing else.
-/
namespace IndexExplorer

open Headers

/-! ## Requests made again -/

namespace Request

/-- The request made again out of its parts. -/
def rebuilt (r : Request) : Request :=
  { r with headers := withImplied r.method r.url r.body r.headers }

/-- A request names its host and the length of its body. -/
structure HasImplied (r : Request) : Prop where
  host : r.url.host ≠ "" → "host" ∈ names r.headers
  length : r.body.isEmpty = false → "content-length" ∈ names r.headers
  bodiless : expectsBody r.method = true →
    "content-length" ∈ names r.headers ∨ "transfer-encoding" ∈ names r.headers

/-- What is named already is not added again. -/
theorem rebuilt_eq_self {r : Request} (implied : HasImplied r) : rebuilt r = r := by
  have kept : (if r.body.isEmpty then r.headers
      else r.headers.setDefault "content-length" (toString r.body.size)) = r.headers := by
    cases empty : r.body.isEmpty with
    | true => rfl
    | false => simp [setDefault, has_eq_true_iff.mpr (implied.length empty)]
  have host : (!r.headers.has "host" && !r.url.host.isEmpty) = false := by
    by_cases hostless : r.url.host = ""
    · simp [hostless]
    · simp [has_eq_true_iff.mpr (implied.host hostless)]
  have length : (!r.headers.has "content-length" && !r.headers.has "transfer-encoding" &&
      expectsBody r.method) = false := by
    cases expected : expectsBody r.method with
    | false => simp
    | true =>
      rcases implied.bodiless expected with told | told
      · simp [has_eq_true_iff.mpr told]
      · simp [has_eq_true_iff.mpr told]
  simp only [rebuilt, withImplied, kept, host, length, Bool.false_eq_true, ↓reduceIte,
    List.nil_append]

/-- The length of a body is told, and so is that there is none where one is expected. -/
theorem length_mem_withImplied (method : String) (url : Url) (body : ByteArray) (given : Headers) :
    (body.isEmpty = false → "content-length" ∈ names (withImplied method url body given)) ∧
      (expectsBody method = true → "content-length" ∈ names (withImplied method url body given) ∨
        "transfer-encoding" ∈ names (withImplied method url body given)) := by
  unfold withImplied
  simp only [names_append, List.mem_append]
  constructor
  · intro some
    refine .inr ?_
    rw [some, if_neg Bool.false_ne_true, setDefault]
    split
    · rename_i told
      exact has_eq_true_iff.mp told
    · exact names_append given _ ▸ List.mem_append_right _ List.mem_cons_self
  · intro expected
    generalize (if body.isEmpty then given else given.setDefault _ _) = all
    by_cases told : "content-length" ∈ names all
    · exact .inl (.inr told)
    by_cases coded : "transfer-encoding" ∈ names all
    · exact .inr (.inr coded)
    refine .inl (.inl (.inr ?_))
    have untold := mt has_eq_true_iff.mp told
    have uncoded := mt has_eq_true_iff.mp coded
    rw [if_pos (by simp [untold, uncoded, expected])]
    exact List.mem_cons_self

theorem hasImplied_of_make {method url : String} {fields : Members} {body : ByteArray}
    {timeout : Option Json} {r : Request} (made : make method url fields body timeout = .ok r) :
    HasImplied r := by
  obtain ⟨u, given, -, -, rfl⟩ := make_eq_ok_iff.mp made
  obtain ⟨length, bodiless⟩ := length_mem_withImplied (Text.upper method) u body given
  exact ⟨fun named => host_mem_withImplied named _ body given, length, bodiless⟩

end Request

namespace Signature

variable {d : Digest} {p : Purpose} {hashBody : Bool} {r out : Request} {n : String}

/-- The headers that authenticate a request. -/
def authenticating : List String :=
  ["authorization", "x-amz-date", "x-amz-security-token", hashHeader]

/-! ## Names -/

theorem mem_names_of_sign (signed : sign d p hashBody r = .ok out) (mem : n ∈ names r.headers) :
    n ∈ names out.headers := by
  rw [mem_names_iff_getAll]
  by_cases auth : n = "authorization"
  · obtain ⟨stated, signature, value⟩ := getAll_authorization signed
    simp [auth, value]
  · rw [getAll_sign signed auth]
    cases (workingValues d p hashBody r n).getLast? with
    | some v => exact List.cons_ne_nil v []
    | none => exact mem_names_iff_getAll.mp mem

/-- A header that is new to the request authenticates it. -/
theorem new_of_sign (signed : sign d p hashBody r = .ok out) (mem : n ∈ names out.headers)
    (new : n ∉ names r.headers) : n ∈ authenticating := by
  by_contra other
  simp only [authenticating, List.mem_cons, List.not_mem_nil, or_false, not_or] at other
  obtain ⟨auth, signing, token, hash⟩ := other
  have absent : r.headers.getAll n = [] := getAll_eq_nil new
  have dateless : ¬ (n = "date" ∧ r.headers.has "date" = true) := by
    rintro ⟨rfl, named⟩
    exact new (has_eq_true_iff.mp named)
  have nothing : workingValues d p hashBody r n = [] := by
    simp [workingValues, setValues?, auth, signing, token, dateless, hashValues, hash,
      ownValues_of_absent absent]
  rw [mem_names_iff_getAll, getAll_sign signed auth, nothing] at mem
  exact mem absent

/-! ## Values -/

/-- A header that does not authenticate and is no date keeps its values: one by one if the transport
manages it, and else with commas between them. -/
theorem getAll_sign_of_kept (signed : sign d p hashBody r = .ok out) (mem : n ∈ names r.headers)
    (other : n ∉ authenticating) (date : n ≠ "date") :
    out.headers.getAll n =
      if n ∈ transportHeaders then r.headers.getAll n
      else [", ".intercalate (r.headers.getAll n)] := by
  simp only [authenticating, List.mem_cons, List.not_mem_nil, or_false, not_or] at other
  obtain ⟨auth, signing, token, hash⟩ := other
  have working : workingValues d p hashBody r n = ownValues r n := by
    simp [workingValues, setValues?, auth, signing, token, date, hashValues, hash]
  rw [getAll_sign signed auth, working]
  split
  · rename_i managed
    rw [ownValues_of_mem managed]
    rfl
  · rename_i own
    rw [ownValues_of_named own (mem_names_iff_getAll.mp mem)]
    rfl

/-- **Signing adds headers that authenticate, and does nothing else.** Method, URL, body and timeout
stay, and making the signed request again out of its parts adds nothing. Every header that neither
authenticates nor dates the request keeps its values, those with the same name joined in order
unless the transport manages them; and every header that is new authenticates. -/
theorem sign_adds_authentication {method url : String} {fields : Members} {body : ByteArray}
    {timeout : Option Json} (made : Request.make method url fields body timeout = .ok r)
    (signed : sign d p hashBody r = .ok out) :
    out.method = r.method ∧ out.url = r.url ∧ out.body = r.body ∧ out.timeout = r.timeout ∧
      Request.rebuilt out = out ∧
      (∀ n ∈ names r.headers, n ∉ authenticating → n ≠ "date" →
        out.headers.getAll n =
          if n ∈ transportHeaders then r.headers.getAll n
          else [", ".intercalate (r.headers.getAll n)]) ∧
      ∀ n ∈ names out.headers, n ∉ names r.headers → n ∈ authenticating := by
  have frame := eq_of_sign signed
  obtain ⟨host, length, bodiless⟩ := Request.hasImplied_of_make made
  have implied : Request.HasImplied out := by
    have keep : ∀ n, n ∈ names r.headers → n ∈ names out.headers :=
      fun n => mem_names_of_sign signed
    rw [frame]
    exact ⟨fun named => keep _ (host named), fun some => keep _ (length some),
      fun expected => (bodiless expected).imp (keep _) (keep _)⟩
  refine ⟨by rw [frame], by rw [frame], by rw [frame], by rw [frame],
    Request.rebuilt_eq_self implied, ?kept, ?new⟩
  case kept => exact fun n mem other date => getAll_sign_of_kept signed mem other date
  case new => exact fun n mem new => new_of_sign signed mem new

/-- What is accepted and two notes, each in two fields. -/
def doubled : Headers :=
  [("host", "h"), ("accept", "a"), ("x-note", "1"), ("accept", "b"), ("x-note", "2")]

theorem sign_adds_authentication_doubled :
    let r := emptyRequest "h" none doubled
    Request.make "GET" "http://h/x" [("Accept", .str "a"), ("X-Note", .str "1"),
        ("accept", .str "b"), ("x-note", .str "2")] .empty none = .ok r ∧
      ∃ out, sign .sha256 (inRegion "eu") true r = .ok out ∧
        out.method = "GET" ∧ out.url = r.url ∧ out.body = .empty ∧ out.timeout = none ∧
        Request.rebuilt out = out ∧ out.headers.getAll "accept" = ["a", "b"] ∧
        out.headers.getAll "x-note" = ["1, 2"] ∧
        ∀ n ∈ names out.headers, n ∉ names r.headers → n ∈ authenticating := by
  intro r
  have made : Request.make "GET" "http://h/x" [("Accept", .str "a"), ("X-Note", .str "1"),
      ("accept", .str "b"), ("x-note", .str "2")] .empty none = .ok r := by rfl
  have undated : Undated r := ⟨by decide, by decide⟩
  have signed := (sign_undated_iff (d := .sha256) (p := inRegion "eu") undated (by decide)).mpr
    ⟨_, split_ofHost, rfl⟩
  obtain ⟨method, url, body, timeout, rebuilt, kept, new⟩ := sign_adds_authentication made signed
  have accept := kept "accept" (by decide) (by decide) (by decide)
  have note := kept "x-note" (by decide) (by decide) (by decide)
  exact ⟨made, _, signed, method, url, body, timeout, rebuilt, accept, note, new⟩

end Signature

end IndexExplorer
