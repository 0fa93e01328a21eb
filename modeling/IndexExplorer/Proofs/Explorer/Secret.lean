import IndexExplorer.Explorer
import IndexExplorer.Proofs.Discovery.Ask
import IndexExplorer.Proofs.Explorer.Access
import IndexExplorer.Proofs.Gateway.Sent
import IndexExplorer.Proofs.Signature.Secret

/-!
What operations make of the secret key.

With given keys the secret one is looked at in two places: it must not be empty, and signatures are
made with it. Two runs with different secret keys therefore send the same requests but for their
signatures, and end with the same result or the same problem.

* `SameButSecret`: sources, and connections, with given keys that differ in the secret one;
* `static_agree`, `forwardConnection_agree`: what is made of them differs in the secret key again;
* `request_agree`, `ask_alike`, `pages_alike`: attempts, series of attempts, and pages;
* `secret_shows_in_signature`: every run of an operation.
-/
namespace IndexExplorer

/-! ## Sources of credentials -/

/-- Two sources with given keys that differ at most in the secret one, which neither lacks. -/
structure KeySource.SameButSecret (k k' : KeySource) : Prop where
  others : k' = { k with secretKey := k'.secretKey }
  static : k.authMode = .ok .static
  given : ∃ secret, secret ≠ "" ∧ k.secretKey = .str secret
  given' : ∃ secret, secret ≠ "" ∧ k'.secretKey = .str secret

/-- Two connections with given keys that differ at most in the secret one, which neither lacks. -/
structure Connection.SameButSecret (c c' : Connection) : Prop where
  others : c' = { c with secretKey := c'.secretKey }
  static : c.authMode = .static
  given : ∃ secret, secret ≠ "" ∧ c.secretKey = some secret
  given' : ∃ secret, secret ≠ "" ∧ c'.secretKey = some secret

/-- Credentials from values that differ in the secret key. -/
theorem CredentialSet.ofValues_agree (access token region : Json) (secret secret' : String) :
    Result.Agree SameButSecret (ofValues access (.str secret) token region)
      (ofValues access (.str secret') token region) := by
  refine Checked.Agree.result ?_
  refine .seq (.seq (.seq ?_ _) _) _
  exact .seqPassed (.map (fun _ _ _ _ => rfl) _)

namespace KeySource

variable {k k' : KeySource}

theorem given_str {s : String} (full : s ≠ "") : (Json.str s).given = true := by
  simp [Json.given, full]

/-- The credentials of two sources differ in the secret key, or cannot be had for the same
reason. -/
theorem static_agree (same : SameButSecret k k') :
    Result.Agree CredentialSet.SameButSecret k.static k'.static := by
  obtain ⟨secret, full, e⟩ := same.given
  obtain ⟨secret', full', e'⟩ := same.given'
  rw [same.others, e']
  simp only [KeySource.static, e, given_str full, given_str full', Bool.not_true,
    Bool.false_eq_true, ↓reduceIte]
  split
  · exact .error _
  · exact CredentialSet.ofValues_agree _ _ _ secret secret'

theorem resolve_of_static (selected : k.authMode = .ok .static) :
    k.resolve files = k.static.map some := by
  simp only [resolve, selected, bind, Except.bind, Except.map]
  rfl

theorem SameButSecret.authMode_eq (same : SameButSecret k k') : k'.authMode = .ok .static := by
  rw [← same.static, same.others]
  rfl

theorem resolve_agree (files : CredentialFiles) (same : SameButSecret k k') :
    Result.Agree (fun a b => ∃ key key' : CredentialSet,
      a = some key ∧ b = some key' ∧ key.SameButSecret key')
      (k.resolve files) (k'.resolve files) := by
  rw [resolve_of_static same.static, resolve_of_static same.authMode_eq]
  exact (static_agree same).bind fun key key' h => .ok ⟨key, key', rfl, rfl, h⟩

theorem SameButSecret.withRegion (same : SameButSecret k k') (region : Json) :
    SameButSecret { k with region } { k' with region } := by
  refine ⟨?_, same.static, same.given, same.given'⟩
  rw [same.others]

/-- The mode of a source with given keys is the name of that mode. -/
theorem mode_of_static (selected : k.authMode = .ok .static) :
    ∃ name, k.mode = .str name ∧ AuthMode.ofName? name = some .static := by
  unfold authMode at selected
  cases mode : k.mode with
  | str name =>
    cases named : AuthMode.ofName? name with
    | none => simp [mode, named] at selected
    | some m =>
      simp only [mode, named, Except.ok.injEq] at selected
      exact ⟨name, rfl, selected ▸ named⟩
  | _ => simp [mode] at selected

end KeySource

variable {env : Environment} {c c' : Connection}

theorem Connection.SameButSecret.source (same : c.SameButSecret c') :
    KeySource.SameButSecret (.ofConnection c) (.ofConnection c') := by
  obtain ⟨secret, full, e⟩ := same.given
  obtain ⟨secret', full', e'⟩ := same.given'
  refine ⟨?_, ?_, ⟨secret, full, ?_⟩, ⟨secret', full', ?_⟩⟩
  · rw [same.others]
    rfl
  · rw [KeySource.authMode_ofConnection, same.static]
  · simp only [KeySource.ofConnection, e, Json.ofOption]
  · simp only [KeySource.ofConnection, e', Json.ofOption]

/-! ## Asking nodes -/

namespace Gateway

open Signature

theorem request_agree (env : Environment) (same : c.SameButSecret c') (call : Call) (node : String) :
    Result.Agree SameButSignature (request env c call node) (request env c' call node) := by
  have timeout : c'.timeout = c.timeout := by rw [same.others]
  unfold request
  rw [timeout]
  refine (KeySource.resolve_agree env.files same.source).bind ?_
  rintro _ _ ⟨k, k', rfl, rfl, keys⟩
  refine .bindSame _ fun built => .bindSame _ fun service => ?_
  have region : signingRegion c' k' = signingRegion c k := by
    rw [same.others, keys]
    rfl
  rw [region]
  exact sign_agree env.digest ⟨k, signingRegion c k, service, env.time⟩ keys true built

theorem ask_alike (same : c.SameButSecret c') (call : Call) (lost : Failure)
    (nodes : List String) :
    Exchange.Alike SameButSignature (ask env c call lost nodes) (ask env c' call lost nodes) := by
  induction nodes generalizing lost with
  | nil => exact .done _
  | cons node others ih =>
    have attempts := request_agree env same call node
    unfold ask
    generalize request env c call node = attempt at attempts
    generalize request env c' call node = attempt' at attempts
    cases attempts with
    | error p => exact .done _
    | ok related =>
      refine .sendBind related.url (sameButSignature_outgoing related) fun o => ?_
      cases o with
      | received response => exact .done _
      | unusable p => exact .done _
      | fault f =>
        simp only
        split
        · exact ih _
        · exact .done _

theorem execute_alike (same : c.SameButSecret c') (call : Call) :
    Exchange.Alike SameButSignature (execute env c call) (execute env c' call) := by
  have nodes : c'.nodes = c.nodes := by rw [same.others]
  unfold execute
  rw [nodes]
  split
  · exact .done _
  · exact ask_alike same call _ _

end Gateway

/-! ## Asking for pages -/

namespace Discovery

open Signature

variable {k k' : CredentialSet}

theorem request_agree (env : Environment) (same : k.SameButSecret k') (region : String) (timeout token : Json) :
    Result.Agree SameButSignature (request env region k timeout token)
      (request env region k' timeout token) :=
  .bindSame _ fun made =>
    sign_agree env.digest ⟨k, region, Service.serverless, env.time⟩ same true made

theorem pages_alike (same : k.SameButSecret k') (region : String) (timeout : Json) (n : Nat)
    (found : List Collection) (token : Json) :
    Exchange.Alike SameButSignature (pages env region k timeout n found token)
      (pages env region k' timeout n found token) := by
  induction n generalizing found token with
  | zero => exact .done _
  | succ n ih =>
    have attempts := request_agree env same region timeout token
    rw [pages_succ, pages_succ]
    generalize request env region k timeout token = attempt at attempts
    generalize request env region k' timeout token = attempt' at attempts
    cases attempts with
    | error p => exact .done _
    | @ok r r' related =>
      refine .sendBind related.url (sameButSignature_outgoing related) fun o => ?_
      have told : pageFrom r o = pageFrom r' o := by
        unfold pageFrom
        rw [related.url]
      rw [told]
      cases pageFrom r' o >>= readPage region with
      | error p => exact .done _
      | ok page =>
        obtain ⟨more, next⟩ := page
        simp only
        split
        · exact ih _ _
        · exact .done _

theorem discover_alike (same : k.SameButSecret k') (region timeout : Json) :
    Exchange.Alike SameButSignature (discover env region k timeout) (discover env region k' timeout) := by
  unfold discover
  split
  · exact .done _
  · split
    · split
      · exact (pages_alike same _ timeout _ _ _).map _
      · exact .done _
    · exact .done _

end Discovery

/-! ## Operations -/

namespace Explorer

open Signature

variable {k k' : KeySource}

/-- What the connection of a forwarded request is given. -/
def forwardFields (p : UrlParts) (source : KeySource) : Members := [
  ("nodes", .arr [.str (p.scheme ++ "://" ++ p.authority)]),
  ("region", if source.region.given then source.region else .str defaultRegion),
  ("auth_mode", source.mode),
  ("profile_name", source.profileName),
  ("access_key", source.accessKey),
  ("secret_key", source.secretKey),
  ("session_token", source.sessionToken)]

theorem field_forwardFields (p : UrlParts) (k : KeySource) (secretKey : Json) {name : String}
    (other : name ≠ "secret_key") (r : Rule α) (default : α) :
    (forwardFields p { k with secretKey }).field name r default =
      (forwardFields p k).field name r default := by
  simp [Members.field, Named.get?, forwardFields, List.lookup_cons, beq_false_of_ne other]

theorem field_secretKey (p : UrlParts) {secret : String} (e : k.secretKey = .str secret) :
    (forwardFields p k).field "secret_key" (Rule.optional Rule.text) none =
      .passed (some secret) := by
  simp [Members.field, Named.get?, forwardFields, List.lookup_cons, e, Rule.optional, Rule.text,
    Checked.under, Checked.map]

/-- The connection of a forwarded request differs in the secret key as its source does. -/
theorem forwardConnection_agree (same : k.SameButSecret k') (p : UrlParts) :
    Result.Agree Connection.SameButSecret (forwardConnection p k) (forwardConnection p k') := by
  obtain ⟨secret, full, e⟩ := same.given
  obtain ⟨secret', full', e'⟩ := same.given'
  obtain ⟨name, mode, named⟩ := KeySource.mode_of_static same.static
  have selected : (forwardFields p k).field "auth_mode" (Rule.oneOf AuthMode.ofName?) .profile =
      .passed .static := by
    simp [Members.field, Named.get?, forwardFields, List.lookup_cons, mode, Rule.oneOf, named,
      Checked.under]
  refine Checked.Agree.result (x := Connection.rule (.obj (forwardFields p k)))
    (y := Connection.rule (.obj (forwardFields p k'))) ?_
  simp only [Connection.rule, Rule.record, field_secretKey p e, field_secretKey p e']
  rw [same.others]
  simp only [field_forwardFields, ne_eq, String.reduceEq, not_false_eq_true, selected]
  -- One step for each field of a connection, from the last to the first: only the secret key and the
  -- mode are known to pass, and all other fields are checked in the same way on both sides.
  refine .seq (.seq (.seq (.seq (.seq (.seq (.seqPassed (.seq (.seq (.seqPassed (.seq
    (.map ?_ _) _)) _) _)) _) _) _) _) _) _
  intros
  exact ⟨rfl, rfl, ⟨secret, full, rfl⟩, ⟨secret', full', rfl⟩⟩

theorem search_alike (same : c.SameButSecret c') (f : FilterState) :
    Exchange.Alike SameButSignature (search env c f) (search env c' f) := by
  have demo : c'.demoMode = c.demoMode := by rw [same.others]
  have index : c'.index = c.index := by rw [same.others]
  have compiled : Query.compile f c' = Query.compile f c := by
    rw [same.others]
    rfl
  unfold search
  rw [demo, index, compiled]
  split
  · exact .done _
  · split
    · exact .done _
    · exact (Gateway.execute_alike same _).map _

theorem mapping_alike (same : c.SameButSecret c') :
    Exchange.Alike SameButSignature (mapping env c) (mapping env c') := by
  have demo : c'.demoMode = c.demoMode := by rw [same.others]
  have index : c'.index = c.index := by rw [same.others]
  unfold mapping
  rw [demo, index]
  split
  · exact .done _
  · exact (Gateway.execute_alike same _).map _

theorem indices_alike (same : c.SameButSecret c') :
    Exchange.Alike SameButSignature (indices env c) (indices env c') := by
  have demo : c'.demoMode = c.demoMode := by rw [same.others]
  unfold indices
  rw [demo]
  split
  · exact .done _
  · exact (Gateway.execute_alike same _).map _

theorem forward_alike (same : k.SameButSecret k') (url method : Json) (content : Content) :
    Exchange.Alike SameButSignature (forward env url method content k)
      (forward env url method content k') := by
  have targets : Result.Agree
      (fun a b : UrlParts × Connection => a.1 = b.1 ∧ a.2.SameButSecret b.2)
      (do let p ← forwardParts url; let c ← forwardConnection p k; return (p, c))
      (do let p ← forwardParts url; let c ← forwardConnection p k'; return (p, c)) :=
    .bindSame _ fun p => (forwardConnection_agree same p).bind fun _ _ h => .ok ⟨rfl, h⟩
  unfold forward
  generalize (do let p ← forwardParts url; let c ← forwardConnection p k; return (p, c) :
    Result (UrlParts × Connection)) = target at targets
  generalize (do let p ← forwardParts url; let c ← forwardConnection p k'; return (p, c) :
    Result (UrlParts × Connection)) = target' at targets
  cases targets with
  | error p => exact .done _
  | @ok a b related =>
    obtain ⟨p, c⟩ := a
    obtain ⟨p', c'⟩ := b
    obtain ⟨rfl, keys⟩ := related
    exact Gateway.execute_alike keys _

theorem discover_alike (same : k.SameButSecret k') :
    Exchange.Alike SameButSignature (discover env k) (discover env k') := by
  have region : k'.region = k.region := by rw [same.others]
  unfold discover
  rw [region]
  simp only
  generalize (if k.region.given then k.region else Json.str defaultRegion) = region
  have keys := KeySource.resolve_agree env.files (same.withRegion region)
  generalize KeySource.resolve env.files { k with region } = key at keys
  generalize KeySource.resolve env.files { k' with region } = key' at keys
  cases keys with
  | error p => exact .done _
  | ok related =>
    obtain ⟨key, key', rfl, rfl, keys⟩ := related
    exact Discovery.discover_alike keys region .null

/-- **The secret key shows in the signature alone.** With given keys, take any two secret keys that
are not empty, and everything else the same: the arguments, the environment with its clock, and what
comes of the requests. Then every operation sends equally many requests, each equal to its
counterpart in method, URL, timeout, body and all headers, up to the signature at the end of the
value that authenticates, and ends with the same result or the same problem. The same holds of
discovery for two sets of credentials. -/
theorem secret_shows_in_signature :
    (∀ env c c', Connection.SameButSecret c c' → ∀ s : Script,
      (∀ call, Exchange.AlikeRuns SameButSignature
        ((Gateway.execute env c call).run s) ((Gateway.execute env c' call).run s)) ∧
      (∀ f, Exchange.AlikeRuns SameButSignature ((search env c f).run s) ((search env c' f).run s)) ∧
      Exchange.AlikeRuns SameButSignature ((mapping env c).run s) ((mapping env c').run s) ∧
      Exchange.AlikeRuns SameButSignature ((indices env c).run s) ((indices env c').run s)) ∧
    (∀ env k k', KeySource.SameButSecret k k' → ∀ s : Script,
      (∀ url method content, Exchange.AlikeRuns SameButSignature
        ((forward env url method content k).run s) ((forward env url method content k').run s)) ∧
      Exchange.AlikeRuns SameButSignature ((discover env k).run s) ((discover env k').run s)) ∧
    ∀ env k k', CredentialSet.SameButSecret k k' → ∀ (s : Script) (region timeout : Json),
      Exchange.AlikeRuns SameButSignature
        ((Discovery.discover env region k timeout).run s)
        ((Discovery.discover env region k' timeout).run s) := by
  refine ⟨?_, ?_, ?_⟩
  · intro env c c' same s
    exact ⟨fun call => (Gateway.execute_alike same call).run s,
      fun f => (search_alike same f).run s, (mapping_alike same).run s, (indices_alike same).run s⟩
  · intro env k k' same s
    exact ⟨fun url method content => (forward_alike same url method content).run s,
      (discover_alike same).run s⟩
  · intro env k k' same s region timeout
    exact (Discovery.discover_alike same region timeout).run s

/-! ## Two keys for one node -/

/-- A connection, a source and credentials with another secret key. -/
def otherKeyed : Connection := { Gateway.keyed "http://h" with secretKey := some "KS" }

def keySource : KeySource := { mode := .str "static", accessKey := .str "AK", secretKey := .str "SK" }

def otherKey : CredentialSet := { Gateway.givenKey with secretKey := "KS" }

theorem sameButSecret_keyed : Connection.SameButSecret (Gateway.keyed "http://h") otherKeyed :=
  ⟨rfl, rfl, ⟨"SK", by decide, rfl⟩, ⟨"KS", by decide, rfl⟩⟩

theorem sameButSecret_keySource :
    KeySource.SameButSecret keySource { keySource with secretKey := .str "KS" } :=
  ⟨rfl, rfl, ⟨"SK", by decide, rfl⟩, ⟨"KS", by decide, rfl⟩⟩

theorem sameButSecret_givenKey : CredentialSet.SameButSecret Gateway.givenKey otherKey := rfl

theorem secret_shows_in_signature_keyed :
    let s : Script := ⟨[.received { status := 503 }], false⟩
    Connection.SameButSecret (Gateway.keyed "http://h") otherKeyed ∧
    KeySource.SameButSecret keySource { keySource with secretKey := .str "KS" } ∧
    CredentialSet.SameButSecret Gateway.givenKey otherKey ∧
    Exchange.AlikeRuns SameButSignature
      ((search Gateway.noonEnvironment (Gateway.keyed "http://h") {}).run s)
      ((search Gateway.noonEnvironment otherKeyed {}).run s) ∧
    Exchange.AlikeRuns SameButSignature
      ((forward Gateway.noonEnvironment (.str "http://h/x") (.str "GET") .none keySource).run s)
      ((forward Gateway.noonEnvironment (.str "http://h/x") (.str "GET") .none
        { keySource with secretKey := .str "KS" }).run s) ∧
    Exchange.AlikeRuns SameButSignature
      ((Discovery.discover Gateway.noonEnvironment (.str "us-east-1") Gateway.givenKey .null).run s)
      ((Discovery.discover Gateway.noonEnvironment (.str "us-east-1") otherKey .null).run s) :=
  ⟨sameButSecret_keyed, sameButSecret_keySource, sameButSecret_givenKey,
    (secret_shows_in_signature.1 _ _ _ sameButSecret_keyed _).2.1 {},
    (secret_shows_in_signature.2.1 _ _ _ sameButSecret_keySource _).1 _ _ _,
    secret_shows_in_signature.2.2 _ _ _ sameButSecret_givenKey _ _ _⟩

end Explorer

end IndexExplorer
