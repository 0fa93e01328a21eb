import IndexExplorer.Proofs.Gateway.Failover
import IndexExplorer.Proofs.Signature.Working

/-!
The requests of a call, one for each node that is asked.

* `sent_of_run_execute`: the requests sent are those that were made for the nodes, in their order,
  as they go out;
* `run_execute_signed`: with credentials each of them was signed, for the service that its own URL
  tells, and goes out with that signature unless its URL names a user, who takes the place of the
  signature.
-/
namespace IndexExplorer.Gateway

variable {env : Environment} {c : Connection} {call : Call} {s : Script} {i : Nat} {sent : Request}

/-- The request to a node is the one that was made for it, as it goes out. -/
theorem sent_of_run_ask {lost : Failure} {nodes : List String}
    (asked : ((ask env c call lost nodes).run s).1[i]? = some sent) :
    ∃ node made, nodes[i]? = some node ∧ request env c call node = .ok made ∧
      sent = made.outgoing := by
  induction nodes generalizing lost s i with
  | nil => simp [ask, Exchange.run] at asked
  | cons node others ih =>
    cases attempt : request env c call node with
    | error p =>
      rw [run_ask_of_error attempt] at asked
      simp at asked
    | ok made =>
      cases silent : ((s.outcome 0).seen made.url).silence? with
      | none =>
        rw [run_ask_of_answer attempt silent] at asked
        obtain ⟨first, e⟩ := List.getElem?_eq_some_iff.mp asked
        obtain rfl : i = 0 := by simpa using first
        exact ⟨node, made, rfl, attempt, e.symm⟩
      | some f =>
        rw [run_ask_of_silence attempt silent] at asked
        cases i with
        | zero => exact ⟨node, made, rfl, attempt, (Option.some.inj asked).symm⟩
        | succ i => exact ih asked

theorem sent_of_run_execute (asked : ((execute env c call).run s).1[i]? = some sent) :
    ∃ node made, (Node.normalize c.nodes)[i]? = some node ∧
      request env c call node = .ok made ∧ sent = made.outgoing := by
  by_cases configured : Node.normalize c.nodes = []
  · simp [execute, configured, Exchange.run] at asked
  · rw [execute_eq_ask env c call configured] at asked
    exact sent_of_run_ask asked

/-- The first node is asked when the request for it can be made. -/
theorem run_execute_first {node : String} {others : List String} {made : Request}
    (nodes : Node.normalize c.nodes = node :: others) (attempt : request env c call node = .ok made)
    (s : Script) : ((execute env c call).run s).1[0]? = some made.outgoing := by
  rw [execute_eq_ask env c call (by simp [nodes]), nodes]
  simp only [ask, attempt, Exchange.run_send]
  rfl

/-- The method of a request is that of the call, in upper case. -/
theorem method_of_request {node : String} {made : Request}
    (attempt : request env c call node = .ok made) :
    ∃ method, call.method = .str method ∧ made.method = Text.upper method := by
  obtain ⟨key, built, -, build, rest⟩ := request_eq_ok_iff.mp attempt
  obtain ⟨method, given, name, -, -, make⟩ := Request.build_eq_ok_iff.mp build
  obtain ⟨u, fields, -, -, rfl⟩ := Request.make_eq_ok_iff.mp make
  refine ⟨method, name, ?_⟩
  cases key with
  | none => rw [rest]
  | some k =>
    obtain ⟨service, -, signed⟩ := rest
    rw [Signature.eq_of_sign signed]

/-! ## Signed requests -/

/-- The values that authenticate a request as it goes out, when it has one value for that itself:
this value, unless the URL names a user. -/
theorem getAll_outgoing {r : Request} {value : String}
    (own : r.headers.getAll "authorization" = [value]) :
    r.outgoing.headers.getAll "authorization" =
      if r.url.credentials = ("", "") then [value]
      else [Request.basicValue r.url.credentials.1 r.url.credentials.2] := by
  have nobody : (r.url.credentials.1.isEmpty && r.url.credentials.2.isEmpty) = true ↔
      r.url.credentials = ("", "") := by
    rw [Bool.and_eq_true, String.isEmpty_iff, String.isEmpty_iff, Prod.ext_iff]
  simp only [Request.outgoing, nobody]
  split
  · exact own
  · exact Headers.getAll_assign_self ..

/-- **What is signed and what is sent.** With credentials, every request that goes out is the one
that was signed for its node, with the access key of the credentials and for the region and the
service of the node's URL, and it carries that signature as the only value that authenticates it. A
URL that names a user is the exception: the user's name and password stand in the place of the
signature. -/
theorem run_execute_signed {k : CredentialSet}
    (resolved : (KeySource.ofConnection c).resolve env.files = .ok (some k))
    (asked : ((execute env c call).run s).1[i]? = some sent) :
    ∃ node built service signed names signature,
      (Node.normalize c.nodes)[i]? = some node ∧
      Request.build call.method (.str (urlOf node call)) call.content call.fields
        (.ofOption .float c.timeout) = .ok built ∧
      Service.ofUrl (urlOf node call) = .ok service ∧
      Signature.sign env.digest ⟨k, signingRegion c k, service, env.time⟩ true built = .ok signed ∧
      signed.headers.getAll "authorization" =
        [Signature.authorization ⟨k, signingRegion c k, service, env.time⟩ names signature] ∧
      sent = signed.outgoing ∧
      sent.headers.getAll "authorization" =
        if signed.url.credentials = ("", "") then signed.headers.getAll "authorization"
        else [Request.basicValue signed.url.credentials.1 signed.url.credentials.2] := by
  obtain ⟨node, signed, at_i, attempt, rfl⟩ := sent_of_run_execute asked
  obtain ⟨key, built, found, build, rest⟩ := request_eq_ok_iff.mp attempt
  obtain rfl : key = some k := Except.ok.inj (found.symm.trans resolved)
  obtain ⟨service, told, sign⟩ := rest
  obtain ⟨names, signature, own⟩ := Signature.getAll_authorization sign
  exact ⟨node, built, service, signed, names, signature, at_i, build, told, sign, own, rfl, by
    rw [getAll_outgoing own, own]⟩

/-! ## Nodes with keys -/

theorem authorization_ne_basic (p : Signature.Purpose) (names signature : String) :
    Signature.authorization p names signature ≠ "Basic dTpw" := by
  intro e
  obtain ⟨rest, shape⟩ := List.isPrefixOf_iff_prefix.mp (Signature.isPrefixOf_credential p)
  have first := congrArg String.toList e
  rw [Signature.toList_authorization, ← shape] at first
  exact absurd (List.cons.inj first).1 (by decide)

/-- A node to which requests are signed. -/
def keyed (node : String) : Connection :=
  { nodes := [node], authMode := .static, accessKey := some "AK", secretKey := some "SK" }

/-- The credentials of these nodes. -/
def givenKey : CredentialSet := ⟨"AK", "SK", none, some "us-east-1", none⟩

theorem resolve_keyed (node : String) :
    (KeySource.ofConnection (keyed node)).resolve noonEnvironment.files = .ok (some givenKey) := by
  rfl

/-- A request to a node with keys can be made when its URL can be read by both readers. -/
theorem request_keyed {node service : String} {u : Url} {parts : UrlParts}
    (read : Url.read (urlOf node { path := "/x" }) = .ok u)
    (told : Service.ofUrl (urlOf node { path := "/x" }) = .ok service)
    (split : UrlParts.split u.text = .ok parts) (host : u.host ≠ "") :
    ∃ made, request noonEnvironment (keyed node) { path := "/x" } node = .ok made ∧
      made.url = u ∧
      ∃ p names signature, made.headers.getAll "authorization" =
        [Signature.authorization p names signature] := by
  have build : Request.build (.str "GET") (.str (urlOf node { path := "/x" })) .none .null
      (.ofOption .float (keyed node).timeout) =
        .ok ⟨"GET", u, [("host", u.hostPort)], .empty, some (.float 30.0)⟩ := by
    refine Request.build_eq_ok_iff.mpr ⟨"GET", [], rfl, rfl, rfl, ?_⟩
    refine Request.make_eq_ok_iff.mpr ⟨u, [], read, rfl, ?_⟩
    have named : u.host.isEmpty = false := by simpa using host
    have implied : Request.withImplied "GET" u .empty [] = [("host", u.hostPort)] := by
      simp only [Request.withImplied, named]
      rfl
    change _ = Request.mk "GET" u (Request.withImplied "GET" u .empty []) .empty _
    rw [implied]
    rfl
  have undated : Signature.Undated ⟨"GET", u, [("host", u.hostPort)], .empty, some (.float 30.0)⟩ :=
    ⟨by simp [Headers.names], by simp [Headers.names, Signature.hashHeader]⟩
  have signed := (Signature.sign_undated_iff (d := noonEnvironment.digest)
    (p := ⟨givenKey, signingRegion (keyed node) givenKey, service, noonEnvironment.time⟩) undated
    List.mem_cons_self).mpr ⟨parts, split, rfl⟩
  refine ⟨_, request_eq_ok_iff.mpr
      ⟨some givenKey, _, resolve_keyed node, build, service, told, signed⟩,
    rfl, _, Signature.getAll_authorization signed⟩

theorem normalize_keyed : Node.normalize (keyed "http://h").nodes = ["http://h"] ∧
    Node.normalize (keyed "http://u:p@h").nodes = ["http://u:p@h"] := by decide

/-- The request to a node without a user carries its signature. -/
theorem run_execute_signed_first :
    ∃ sent : Request, ((execute noonEnvironment (keyed "http://h") { path := "/x" }).run
        ⟨[.received { status := 200 }], false⟩).1[0]? = some sent ∧
      (KeySource.ofConnection (keyed "http://h")).resolve noonEnvironment.files =
        .ok (some givenKey) ∧
      ∃ names signature, sent.headers.getAll "authorization" =
        [Signature.authorization ⟨givenKey, "us-east-1", "es", 1440936000⟩ names signature] := by
  have url : urlOf "http://h" { path := "/x" } = "http://h/x" := by decide +kernel
  have read : Url.read "http://h/x" = .ok ⟨"http", "", "h", none, "/x", none, none⟩ := by
    decide +kernel
  have told : Service.ofUrl "http://h/x" = .ok "es" := by rfl
  have text : Url.text ⟨"http", "", "h", none, "/x", none, none⟩ = "http://h/x" := by rfl
  have split : UrlParts.split "http://h/x" = .ok ⟨"http", "h", "/x", "", ""⟩ := by rfl
  rw [← url] at read told
  rw [← text] at split
  obtain ⟨made, attempt, at_url, -⟩ := request_keyed read told split (by decide)
  have first := run_execute_first normalize_keyed.1 attempt ⟨[.received { status := 200 }], false⟩
  obtain ⟨node, -, service, signed, names, signature, at_0, -, found, -, own, out, carried⟩ :=
    run_execute_signed (resolve_keyed "http://h") first
  rw [normalize_keyed.1] at at_0
  obtain rfl : "http://h" = node := Option.some.inj at_0
  obtain rfl : "es" = service := Except.ok.inj (told.symm.trans found)
  have nobody : signed.url.credentials = ("", "") := by
    rw [← Request.url_outgoing signed, ← out, Request.url_outgoing, at_url]
    decide +kernel
  rw [if_pos nobody, own] at carried
  exact ⟨_, first, resolve_keyed "http://h", names, signature, carried⟩

/-- A user in the URL of a node takes the place of the signature, and what the user's name and
password make is no signature. -/
theorem user_replaces_signature :
    ∃ sent : Request, ((execute noonEnvironment (keyed "http://u:p@h") { path := "/x" }).run
        ⟨[.received { status := 200 }], false⟩).1[0]? = some sent ∧
      (KeySource.ofConnection (keyed "http://u:p@h")).resolve noonEnvironment.files =
        .ok (some givenKey) ∧
      sent.url = ⟨"http", "u:p", "h", none, "/x", none, none⟩ ∧
      sent.headers.getAll "authorization" = ["Basic dTpw"] ∧
      ∀ d p hashBody r signed, Signature.sign d p hashBody r = .ok signed →
        signed.headers.getAll "authorization" ≠ sent.headers.getAll "authorization" := by
  have url : urlOf "http://u:p@h" { path := "/x" } = "http://u:p@h/x" := by decide +kernel
  have read : Url.read "http://u:p@h/x" = .ok ⟨"http", "u:p", "h", none, "/x", none, none⟩ := by
    decide +kernel
  have told : Service.ofUrl "http://u:p@h/x" = .ok "es" := by rfl
  have text : Url.text ⟨"http", "u:p", "h", none, "/x", none, none⟩ = "http://u:p@h/x" := by
    decide +kernel
  have split : UrlParts.split "http://u:p@h/x" = .ok ⟨"http", "u:p@h", "/x", "", ""⟩ := by rfl
  rw [← url] at read told
  rw [← text] at split
  obtain ⟨made, attempt, at_url, p, names, signature, own⟩ :=
    request_keyed read told split (by decide)
  have first := run_execute_first normalize_keyed.2 attempt ⟨[.received { status := 200 }], false⟩
  have user : made.url.credentials = ("u", "p") := by
    rw [at_url]
    decide +kernel
  have basic : made.outgoing.headers.getAll "authorization" = ["Basic dTpw"] := by
    have value : Request.basicValue "u" "p" = "Basic dTpw" := by decide +kernel
    rw [getAll_outgoing own, user, if_neg (by decide), value]
  refine ⟨_, first, resolve_keyed _, by rw [Request.url_outgoing, at_url], basic, ?_⟩
  intro d p hashBody r signed sign
  obtain ⟨names, signature, own⟩ := Signature.getAll_authorization sign
  rw [own, basic]
  exact fun e => authorization_ne_basic p names signature (List.singleton_inj.mp e)

end IndexExplorer.Gateway
