import IndexExplorer.Proofs.Explorer.Address
import IndexExplorer.Proofs.Json.Bytes
import IndexExplorer.Proofs.Query.Document

/-!
What requests carry.

A document that is given as the body of a request is written once, and nothing that is done to the
request afterwards changes it. What is read from the body is then what was given.

* `body_of_build`, `body_of_request`: a request carries the content that it is built for, also
  when it is signed;
* `ofBytes_document`: a document that can be written is read back from the bytes that are sent;
* `bodies_read_back`: so it is for every request that is built and for every one that a search
  sends;
* `build_of_deep`: with a document that could not be read back no request is built.
-/
namespace IndexExplorer

open Json

/-- A value that is sent as a document: a list or an object. -/
def Json.isDocument : Json → Bool
  | .arr _ | .obj _ => true
  | _ => false

/-! ## From the content to the body -/

theorem Request.body_of_build {method url : Json} {content : Content} {fields timeout : Json}
    {r : Request} (h : build method url content fields timeout = .ok r) :
    r.body = content.toBytes := by
  obtain ⟨url, rfl⟩ := url_eq_str_of_build h
  obtain ⟨m, given, -, -, -, made⟩ := build_eq_ok_iff.mp h
  obtain ⟨u, headers, -, -, rfl⟩ := make_eq_ok_iff.mp made
  rfl

theorem Request.body_outgoing (r : Request) : r.outgoing.body = r.body := by
  unfold outgoing
  split
  split <;> rfl

theorem Gateway.body_of_request {env : Environment} {c : Connection} {call : Gateway.Call}
    {node : String} {made : Request} (attempt : request env c call node = .ok made) :
    made.body = call.content.toBytes := by
  obtain ⟨key, built, -, build, rest⟩ := request_eq_ok_iff.mp attempt
  have own := Request.body_of_build build
  cases key with
  | none => rw [rest, own]
  | some k =>
    obtain ⟨service, -, signed⟩ := rest
    rw [Signature.eq_of_sign signed]
    exact own

theorem Json.ofJson_of_isDocument {v : Json} (document : v.isDocument) :
    Content.ofJson v = .document v := by
  cases v <;> first | rfl | cases document

/-- A document that can be written is read back from the bytes that are sent for it. -/
theorem Json.ofBytes_document {v : Json} (document : v.isDocument) (writable : v.Writable)
    (fits : (Content.ofJson v).fits) : ofBytes (Content.ofJson v).toBytes = .ok v := by
  rw [ofJson_of_isDocument document] at fits ⊢
  show ofBytes v.bytes = .ok v
  rw [ofBytes_bytes writable, if_pos (of_decide_eq_true fits)]

namespace Explorer

/-- **Bodies.** The body of a request that is built for a list or an object is read as exactly this
value. The body of every request that a search sends, to whichever node, is read as the query that
was compiled for it. -/
theorem bodies_read_back :
    (∀ (method url v fields timeout : Json) (r : Request), v.isDocument → v.Writable →
      Request.build method url (Content.ofJson v) fields timeout = .ok r →
      ofBytes r.body = .ok v) ∧
    ∀ (env : Environment) (c : Connection) (f : FilterState) (s : Script) (i : Nat)
      (sent : Request), c.demoMode = false → IsShort f.offset → IsShort f.size →
      (∀ q, Query.compile f c = .ok q → ∀ x ∈ q.doubles, ReadsBack x) →
      ((search env c f).run s).1[i]? = some sent →
      ∃ q, Query.compile f c = .ok q ∧ ofBytes sent.body = .ok q.toJson := by
  constructor
  case left =>
    intro method url v fields timeout r document writable built
    rw [Request.body_of_build built]
    exact ofBytes_document document writable (Request.fits_of_build built)
  case right =>
    intro env c f s i sent real offset size back asked
    cases made : Query.compile f c with
    | error p =>
      have nothing : search env c f = .done (.error p) := by simp [search, real, made]
      rw [nothing] at asked
      cases asked
    | ok q =>
      rw [run_search real made] at asked
      obtain ⟨node, attempt, -, request, rfl⟩ := Gateway.sent_of_run_execute asked
      refine ⟨q, rfl, ?_⟩
      rw [Request.body_outgoing, Gateway.body_of_request request]
      exact ofBytes_document (v := q.toJson) rfl
        (Query.writable_toJson made offset size (back q made)) q.fits_toJson

/-- A document with an escape, a character beyond the first plane, and both kinds of numbers. -/
def mixedBody : Json :=
  .obj [("caf\u00e9", .str "a \"fox\"\n🦊"), ("n", .arr [.int (-12), .float 1.5, .null])]

theorem writable_mixedBody : mixedBody.Writable := by
  have numbers : (Json.arr [.int (-12), .float 1.5, .null]).Writable := by
    rw [writable_arr, List.forall_mem_cons, List.forall_mem_cons, List.forall_mem_singleton]
    refine ⟨?_, ?_, trivial⟩
    · show IsShort (-12)
      unfold IsShort
      decide
    · show parse (Number.documentStyle.write 1.5) = .ok (.float 1.5)
      rfl
  rw [mixedBody, writable_obj, List.forall_mem_cons, List.forall_mem_singleton]
  exact ⟨by decide, trivial, numbers⟩

/-- A document that can be written can be built into a request to a host. -/
theorem build_document {v : Json} (document : v.isDocument) (shallow : v.nesting ≤ nestingLimit) :
    ∃ r, Request.build (.str "POST") (.str "http://h") (Content.ofJson v) .null .null = .ok r := by
  have declared : Headers.ofGiven (Request.declaredFields (.document v) []) =
      .ok [("content-type", "application/json")] := rfl
  rw [ofJson_of_isDocument document]
  exact ⟨_, Request.build_eq_ok_iff.mpr ⟨"POST", [], rfl, rfl, decide_eq_true shallow,
    Request.make_eq_ok_iff.mpr ⟨hostUrl, _, read_hostUrl, declared, rfl⟩⟩⟩

theorem bodies_read_back_mixed :
    mixedBody.Writable ∧
    (∃ r, Request.build (.str "POST") (.str "http://h") (Content.ofJson mixedBody) .null .null =
      .ok r ∧ ofBytes r.body = .ok mixedBody) ∧
    ∃ sent q, ((search Gateway.noonEnvironment (ofIndex "logs") {}).run ⟨[], false⟩).1[0]? =
      some sent ∧ Query.compile {} (ofIndex "logs") = .ok q ∧ ofBytes sent.body = .ok q.toJson := by
  refine ⟨writable_mixedBody, ?_, ?_⟩
  · obtain ⟨r, built⟩ := build_document (v := mixedBody) rfl (by decide)
    exact ⟨r, built, bodies_read_back.1 _ _ _ _ _ r rfl writable_mixedBody built⟩
  · have read : Url.read ("http://h" ++ pathTo "logs" "_search") =
        .ok { hostUrl with path := "/logs/_search" } := by decide +kernel
    obtain ⟨sent, first, -, -⟩ := first_of_search "logs" read ⟨[], false⟩
    have plain : ∀ q, Query.compile {} (ofIndex "logs") = .ok q → ∀ x ∈ q.doubles, ReadsBack x := by
      intro q made x mem
      obtain rfl := Except.ok.inj made
      cases mem
    obtain ⟨q, made, back⟩ := bodies_read_back.2 _ _ _ _ 0 sent rfl (by unfold IsShort; decide)
      (by unfold IsShort; decide) plain first
    exact ⟨sent, q, first, made, back⟩

/-! ## Documents that are too deep -/

/-- With a document that is too deep to be read back no request is built, whatever it is for. -/
theorem build_of_deep {v fields : Json} {given : Members} (document : v.isDocument)
    (deep : ofBytes v.bytes = .error .tooDeep) (writable : v.Writable)
    (known : Headers.fieldsOf fields = .ok given) (method url timeout : Json) :
    Request.build method url (Content.ofJson v) fields timeout = .error .tooDeep := by
  refine Request.build_of_not_fits known fun fits => ?_
  rw [ofJson_of_isDocument document] at fits
  rw [ofBytes_bytes writable, if_pos (of_decide_eq_true fits)] at deep
  cases deep

end Explorer

end IndexExplorer
