import IndexExplorer.Proofs.Headers
import IndexExplorer.Request

/-!
When a request can be built, what it then is, and how it goes out.

* `make_eq_ok_iff`, `build_eq_ok_iff`: a request is built exactly when its URL can be read, its
  header fields are texts in ASCII and its content can be written;
* `isLower_of_make`: the names of its headers are in lower case;
* `url_outgoing`, `outgoing_of_userInfo`: a request goes out to its own URL, and unchanged unless
  that names a user.
-/
namespace IndexExplorer.Request

open Headers

theorem make_eq_ok_iff {method url : String} {fields : Members} {body : ByteArray}
    {timeout : Option Json} {r : Request} :
    make method url fields body timeout = .ok r ↔
      ∃ u given, Url.read url = .ok u ∧ Headers.ofGiven fields = .ok given ∧
        r = { method := Text.upper method, url := u,
              headers := withImplied (Text.upper method) u body given, body, timeout } := by
  constructor
  · intro h
    cases hu : Url.read url with
    | error e => simp [make, hu] at h
    | ok u =>
      cases hg : Headers.ofGiven fields with
      | error e => simp [make, hu, hg, Except.map] at h
      | ok given =>
        simp only [make, hu, hg, Except.map, Except.ok.injEq] at h
        exact ⟨u, given, rfl, rfl, h.symm⟩
  · rintro ⟨u, given, hu, hg, rfl⟩
    simp [make, hu, hg, Except.map]

theorem mem_names_withImplied {method : String} {url : Url} {body : ByteArray} {given : Headers}
    {n : String} (mem : n ∈ names (withImplied method url body given)) :
    n ∈ names given ∨ n = "host" ∨ n = "content-length" := by
  unfold withImplied at mem
  simp only [names_append, List.mem_append] at mem
  rcases mem with (mem | mem) | mem
  · exact .inr (.inl (eq_of_mem_names_if mem))
  · exact .inr (.inr (eq_of_mem_names_if mem))
  · split at mem
    · exact .inl mem
    · rcases mem_names_setDefault mem with mem | e
      · exact .inl mem
      · exact .inr (.inr e)

/-- A request to a URL with a host names a host. -/
theorem host_mem_withImplied {url : Url} (named : url.host ≠ "") (method : String)
    (body : ByteArray) (given : Headers) :
    "host" ∈ names (withImplied method url body given) := by
  unfold withImplied
  dsimp only
  generalize (if body.isEmpty then given else given.setDefault _ _) = all
  rw [names_append, names_append, List.mem_append, List.mem_append]
  by_cases own : all.has "host"
  · exact .inr (has_eq_true_iff.mp own)
  · rw [if_pos (by simpa [own] using named)]
    exact .inl (.inl List.mem_cons_self)

/-- The names of the headers of a request are in lower case. -/
theorem isLower_of_make {method url : String} {fields : Members} {body : ByteArray}
    {timeout : Option Json} {r : Request} (made : make method url fields body timeout = .ok r) :
    ∀ n ∈ names r.headers, IsLower n := by
  obtain ⟨u, given, -, hg, rfl⟩ := make_eq_ok_iff.mp made
  intro n mem
  rcases mem_names_withImplied mem with mem | rfl | rfl
  · exact isLower_of_ofGiven hg n mem
  · decide
  · decide

/-- The header fields that are sent with a content: those given, and its type unless they tell. -/
def declaredFields (content : Content) (fields : Members) : Members :=
  fields ++ if content.isJson && !fields.has "content-type" then
      [("content-type", .str "application/json")]
    else []

/-- Without given fields there is at most the type of the content, which can be sent. -/
theorem ofGiven_declaredFields (content : Content) :
    ∃ fields, Headers.ofGiven (declaredFields content []) = .ok fields := by
  unfold declaredFields
  split
  · exact ⟨[("content-type", "application/json")], by rfl⟩
  · exact ⟨[], rfl⟩

theorem names_of_declaredFields {content : Content} {fields : Headers}
    (h : Headers.ofGiven (declaredFields content []) = .ok fields) :
    ∀ n ∈ names fields, n = "content-type" := by
  unfold declaredFields at h
  split at h
  · have one : Headers.ofGiven ([] ++ [("content-type", .str "application/json")]) =
        .ok [("content-type", "application/json")] := by rfl
    obtain rfl := Except.ok.inj (one.symm.trans h)
    exact fun n mem => List.mem_singleton.mp mem
  · obtain rfl := Except.ok.inj h
    exact nofun

theorem build_eq_ok_iff {method : Json} {url : String} {content : Content} {fields timeout : Json}
    {r : Request} :
    build method (.str url) content fields timeout = .ok r ↔
      ∃ m given, method = .str m ∧ Headers.fieldsOf fields = .ok given ∧ content.fits ∧
        make m url (declaredFields content given) content.toBytes (some (timeoutOf timeout)) =
          .ok r := by
  constructor
  · intro h
    cases hf : Headers.fieldsOf fields with
    | error e => simp [build, hf, bind, Except.bind] at h
    | ok given =>
      simp only [build, hf, bind, Except.bind] at h
      split at h
      · rename_i fits
        cases method with
        | str m => exact ⟨m, given, rfl, rfl, fits, h⟩
        | _ => simp [makeGiven] at h
      · cases h
  · rintro ⟨m, given, rfl, hf, fits, h⟩
    simp only [build, hf, fits, bind, Except.bind]
    exact h

/-- A request is built for a URL given as text. -/
theorem url_eq_str_of_build {method url : Json} {content : Content} {fields timeout : Json}
    {r : Request} (h : build method url content fields timeout = .ok r) : ∃ u, url = .str u := by
  cases url with
  | str u => exact ⟨u, rfl⟩
  | _ =>
    exfalso
    cases hf : Headers.fieldsOf fields with
    | error e => simp [build, hf, bind, Except.bind] at h
    | ok given =>
      simp only [build, hf, bind, Except.bind] at h
      split at h
      · cases method <;> cases h
      · cases h

theorem fits_of_build {method url : Json} {content : Content} {fields timeout : Json}
    {r : Request} (h : build method url content fields timeout = .ok r) : content.fits := by
  obtain ⟨u, rfl⟩ := url_eq_str_of_build h
  obtain ⟨-, -, -, -, fits, -⟩ := build_eq_ok_iff.mp h
  exact fits

/-- No request is built with a document that is too deep to be written. -/
theorem build_of_not_fits {method url : Json} {content : Content} {fields timeout : Json}
    {given : Members} (hf : Headers.fieldsOf fields = .ok given) (deep : ¬ content.fits) :
    build method url content fields timeout = .error .tooDeep := by
  simp only [build, hf, bind, Except.bind]
  rw [if_neg deep]

/-- A request goes to the URL that it is built for. -/
theorem url_of_build {method : Json} {url : String} {content : Content} {fields timeout : Json}
    {r : Request} (h : build method (.str url) content fields timeout = .ok r) :
    Url.read url = .ok r.url := by
  obtain ⟨m, given, _, _, _, made⟩ := build_eq_ok_iff.mp h
  obtain ⟨u, _, hu, _, rfl⟩ := make_eq_ok_iff.mp made
  exact hu

theorem url_outgoing (r : Request) : r.outgoing.url = r.url := by
  unfold outgoing
  split
  split <;> rfl

theorem method_outgoing (r : Request) : r.outgoing.method = r.method := by
  unfold outgoing
  split
  split <;> rfl

theorem outgoing_of_userInfo {r : Request} (h : r.url.userInfo = "") : r.outgoing = r := by
  have nobody : r.url.credentials = ("", "") := by
    unfold Url.credentials
    rw [h]
    decide +kernel
  unfold outgoing
  rw [nobody]
  rfl

end IndexExplorer.Request
