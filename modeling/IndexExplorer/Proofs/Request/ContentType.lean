import IndexExplorer.Proofs.Request.Build
import IndexExplorer.Proofs.Signature.Added

/-!
The content type of a request, when it is built and when it is signed.

* `Headers.valuesGiven`, `Headers.getAll_ofGiven`: what given fields tell for a header, in any
  letter case of its name;
* `types_of_build`: a request has the content types that are given, and the one of its content
  unless the given fields have the name in lower case;
* `types_of_sign`: signing joins them;
* **`content_type_of_build`**: a content type that is given in one field is the only one exactly
  when the name of the field is in lower case or the content is not declared to be JSON;
* `other_case_adds_json`: a name in another case.
-/
namespace IndexExplorer

namespace Headers

/-! ## Given fields -/

/-- The values that given fields tell for a header, in any letter case of its name. -/
def valuesGiven (fields : Members) (name : String) : List String :=
  (fields.filter (Text.lowerAscii ·.1 = name)).filterMap fun f =>
    match f.2 with
    | .str s => some s
    | _ => none

/-- One field alone tells what is given for a header. -/
def IsSole (fields : Members) (name : String) (field : String × Json) : Prop :=
  fields.filter (Text.lowerAscii ·.1 = name) = [field]

variable {fields : Members} {given : Headers}

/-- Given fields that can be sent are texts. -/
theorem exists_str_of_ofGiven (h : ofGiven fields = .ok given) :
    ∀ f ∈ fields, ∃ s, f.2 = .str s := by
  induction fields generalizing given with
  | nil => exact nofun
  | cons f fields ih =>
    obtain ⟨n, v⟩ := f
    obtain ⟨s, rest, rfl, others, -⟩ := ofGiven_cons_eq_ok h
    exact List.forall_mem_cons.mpr ⟨⟨s, rfl⟩, ih others⟩

/-- The fields of a request have the values that are given for them. -/
theorem getAll_ofGiven (h : ofGiven fields = .ok given) (name : String) :
    given.getAll name = valuesGiven fields name := by
  induction fields generalizing given with
  | nil =>
    obtain rfl : [] = given := Except.ok.inj h
    rfl
  | cons f fields ih =>
    obtain ⟨n, v⟩ := f
    obtain ⟨s, rest, rfl, others, rfl⟩ := ofGiven_cons_eq_ok h
    by_cases e : Text.lowerAscii n = name
    · subst e
      simp [getAll_cons_self, ih others, valuesGiven]
    · simp [getAll_cons_of_ne s rest e, e, ih others, valuesGiven]

theorem getAll_setDefault_of_ne (h : Headers) {name other : String} (value : String)
    (hn : name ≠ other) : (h.setDefault name value).getAll other = h.getAll other := by
  unfold setDefault
  split
  · rfl
  · rw [Signature.getAll_append, getAll_cons_of_ne value [] hn]
    exact List.append_nil _

end Headers

namespace Request

open Headers

/-! ## Building -/

/-- The name of the header that tells the content type. -/
def contentType : String := "content-type"

/-- The content type of documents and texts. -/
def jsonType : String := "application/json"

theorem getAll_withImplied {method : String} {url : Url} {body : ByteArray} {given : Headers}
    {n : String} (host : n ≠ "host") (length : n ≠ "content-length") :
    (withImplied method url body given).getAll n = given.getAll n := by
  have absent : ∀ {cond : Prop} [Decidable cond] {name value : String}, name ≠ n →
      getAll (if cond then [(name, value)] else []) n = [] := by
    intro cond _ name value other
    exact getAll_eq_nil fun mem => other (eq_of_mem_names_if mem).symm
  unfold withImplied
  dsimp only
  rw [Signature.getAll_append, Signature.getAll_append, absent (Ne.symm host),
    absent (Ne.symm length), List.nil_append, List.nil_append]
  split
  · rfl
  · exact getAll_setDefault_of_ne given _ (Ne.symm length)

variable {method url : Json} {content : Content} {headers timeout : Json} {fields : Members}
  {r : Request}

/-- The content types of a request are those that are given, and behind them the one of its content,
unless the given fields have the name in lower case. -/
theorem types_of_build (named : Headers.fieldsOf headers = .ok fields)
    (built : build method url content headers timeout = .ok r) :
    (∀ f ∈ fields, ∃ s, f.2 = .str s) ∧
      r.headers.getAll contentType = valuesGiven fields contentType ++
        if content.isJson && !fields.has contentType then [jsonType] else [] := by
  obtain ⟨text, rfl⟩ := url_eq_str_of_build built
  obtain ⟨m, own, rfl, read, -, made⟩ := build_eq_ok_iff.mp built
  obtain rfl : fields = own := Except.ok.inj (named.symm.trans read)
  obtain ⟨u, given, -, sent, rfl⟩ := make_eq_ok_iff.mp made
  refine ⟨fun f mem => exists_str_of_ofGiven sent f (List.mem_append_left _ mem), ?_⟩
  rw [getAll_withImplied (by decide) (by decide), getAll_ofGiven sent, declaredFields, valuesGiven,
    List.filter_append, List.filterMap_append]
  congr 1
  split
  · rename_i declared
    exact Eq.trans (by rfl) (if_pos declared).symm
  · rename_i other
    exact (if_neg other).symm

/-! ## Signing -/

/-- Signing joins the content types of a request, and adds none. -/
theorem types_of_sign {d : Digest} {p : Signature.Purpose} {hashBody : Bool} {out : Request}
    (signed : Signature.sign d p hashBody r = .ok out) :
    out.headers.getAll contentType =
      if r.headers.getAll contentType = [] then []
      else [", ".intercalate (r.headers.getAll contentType)] := by
  split
  · rename_i absent
    refine getAll_eq_nil fun mem => ?_
    have new := Signature.new_of_sign signed mem fun own =>
      Signature.mem_names_iff_getAll.mp own absent
    exact absurd new (by decide)
  · rename_i named
    rw [Signature.getAll_sign_of_kept signed (Signature.mem_names_iff_getAll.mpr named) (by decide)
      (by decide), if_neg (by decide)]

/-- A request has these content types, one field for each, and when it is signed one field for
all. -/
def HasTypes (r : Request) (types : List String) : Prop :=
  r.headers.getAll contentType = types ∧
    ∀ d p hashBody out, Signature.sign d p hashBody r = .ok out →
      out.headers.getAll contentType = if types = [] then [] else [", ".intercalate types]

theorem hasTypes_of_build (named : Headers.fieldsOf headers = .ok fields)
    (built : build method url content headers timeout = .ok r) :
    HasTypes r (valuesGiven fields contentType ++
      if content.isJson && !fields.has contentType then [jsonType] else []) := by
  obtain ⟨-, types⟩ := types_of_build named built
  exact ⟨types, fun d p hashBody out signed => by rw [types_of_sign signed, types]⟩

/-- What has the name in lower case is among the fields that have it in any letter case. -/
theorem has_contentType_iff : fields.has contentType = true ↔
    ∃ f ∈ fields.filter (Text.lowerAscii ·.1 = contentType), f.1 = contentType := by
  simp only [Named.has, List.any_eq_true, decide_eq_true_eq, List.mem_filter]
  constructor
  · rintro ⟨f, mem, e⟩
    exact ⟨f, ⟨mem, by rw [e]; decide⟩, e⟩
  · rintro ⟨f, ⟨mem, -⟩, e⟩
    exact ⟨f, mem, e⟩

/-- **A given content type.** When the given fields tell a content type in one field, in any letter
case of its name, a request that is built has this type, and has it alone exactly when the name is
in lower case or the content is neither a document nor a text; else JSON is a second one. Without
such a field documents and texts are JSON, and other contents have no type. Signing joins what there
is into one field. -/
theorem content_type_of_build (named : Headers.fieldsOf headers = .ok fields)
    (built : build method url content headers timeout = .ok r) :
    (∀ name v, IsSole fields contentType (name, v) → ∃ value, v = .str value ∧
      HasTypes r (if name = contentType ∨ content.isJson = false then [value]
        else [value, jsonType])) ∧
    ((∀ f ∈ fields, Text.lowerAscii f.1 ≠ contentType) →
      HasTypes r (if content.isJson then [jsonType] else [])) := by
  have types := hasTypes_of_build named built
  constructor
  · intro name v sole
    have mem : (name, v) ∈ fields.filter (Text.lowerAscii ·.1 = contentType) := by
      rw [sole]
      exact List.mem_singleton_self _
    obtain ⟨value, rfl⟩ := (types_of_build named built).1 _ (List.mem_filter.mp mem).1
    have lower : fields.has contentType = true ↔ name = contentType := by
      rw [has_contentType_iff, sole]
      simp
    refine ⟨value, rfl, ?_⟩
    rw [valuesGiven, sole] at types
    by_cases own : name = contentType
    · simpa [lower.mpr own, own] using types
    · cases json : content.isJson <;> simpa [mt lower.mp own, own, json] using types
  · intro absent
    have none : fields.filter (Text.lowerAscii ·.1 = contentType) = [] :=
      List.filter_eq_nil_iff.mpr fun f mem => by simpa using absent f mem
    have lower : ¬ fields.has contentType = true := by
      rw [has_contentType_iff, none]
      simp
    rw [valuesGiven, none] at types
    simpa [lower] using types

/-! ## Plain text -/

/-- A text is sent as plain text, with the name of the header in lower case. -/
theorem content_type_of_build_lowerCase :
    let fields : Members := [("content-type", .str "text/plain")]
    Headers.fieldsOf (.obj fields) = .ok fields ∧
    IsSole fields contentType ("content-type", .str "text/plain") ∧
    ∃ r, build (.str "GET") (.str "http://h/x") (.text "x") (.obj fields) .null = .ok r ∧
      HasTypes r ["text/plain"] := by
  intro fields
  have sole : IsSole fields contentType ("content-type", .str "text/plain") := by rfl
  have built : build (.str "GET") (.str "http://h/x") (.text "x") (.obj fields) .null =
      .ok ⟨"GET", ⟨"http", "", "h", none, "/x", none, none⟩,
        [("host", "h"), ("content-type", "text/plain"), ("content-length", "1")], "x".toUTF8,
        some (.float 30.0)⟩ := by rfl
  obtain ⟨value, told, types⟩ := (content_type_of_build rfl built).1 _ _ sole
  obtain rfl : "text/plain" = value := Json.str.inj told
  exact ⟨rfl, sole, _, built, types⟩

/-- A text that is sent as plain text, with the name of the header in another case, is declared to
be JSON too: in a second field when the request is built, and in the same one when it is signed. -/
theorem other_case_adds_json :
    let fields : Members := [("Content-Type", .str "text/plain")]
    IsSole fields contentType ("Content-Type", .str "text/plain") ∧
    ∃ r, build (.str "GET") (.str "http://h/x") (.text "x") (.obj fields) .null = .ok r ∧
      r.headers.getAll contentType = ["text/plain", "application/json"] ∧
      ∃ out, Signature.sign .sha256 (Signature.inRegion "eu") true r = .ok out ∧
        out.headers.getAll contentType = ["text/plain, application/json"] := by
  intro fields
  let r : Request := ⟨"GET", ⟨"http", "", "h", none, "/x", none, none⟩,
    [("host", "h"), ("content-type", "text/plain"), ("content-type", "application/json"),
      ("content-length", "1")], "x".toUTF8, some (.float 30.0)⟩
  have built : build (.str "GET") (.str "http://h/x") (.text "x") (.obj fields) .null =
      .ok r := by rfl
  have types : r.headers.getAll contentType = ["text/plain", "application/json"] := by rfl
  have undated : Signature.Undated r := ⟨by decide, by decide⟩
  have signed := (Signature.sign_undated_iff (d := .sha256) (p := Signature.inRegion "eu") undated
    (by decide)).mpr ⟨_, Signature.split_ofHost, rfl⟩
  have joined := types_of_sign signed
  rw [types] at joined
  exact ⟨by rfl, r, built, types, _, signed, joined⟩

end Request

end IndexExplorer
