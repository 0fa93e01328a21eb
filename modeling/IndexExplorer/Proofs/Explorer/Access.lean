import IndexExplorer.Explorer
import IndexExplorer.Proofs.Discovery.Ask

/-!
What operations read of the inputs that authenticate.

A connection holds the fields of all modes at once, and the credential files stand beside it. Only
the fields of the selected mode count, and the files count for a profile alone: whatever else is
changed, the same requests are sent and the same comes of them.

* `SameFor`, `SameAccess`: sources, and connections, that agree in what their mode reads;
* `resolve_eq`: the credentials, or the reason why there are none, are the same;
* `request_eq`, `ask_eq`: so is every attempt, and every series of attempts;
* `operations_ignore_inactive`: so is every run of an operation.
-/
namespace IndexExplorer

/-! ## Sources of credentials -/

namespace KeySource

/-- Two sources with files beside them that differ at most in what their mode does not read. -/
structure SameFor (files files' : CredentialFiles) (k k' : KeySource) : Prop where
  mode : k.mode = k'.mode
  region : k.region = k'.region
  profile : k.authMode = .ok .profile → k.profileName = k'.profileName ∧ files = files'
  static : k.authMode = .ok .static →
    k.accessKey = k'.accessKey ∧ k.secretKey = k'.secretKey ∧ k.sessionToken = k'.sessionToken

variable {files files' : CredentialFiles} {k k' : KeySource}

theorem SameFor.authMode_eq (same : SameFor files files' k k') : k.authMode = k'.authMode := by
  unfold authMode
  rw [same.mode]

/-- Two sources of which the same is read have the same credentials, or lack them for the same
reason. -/
theorem resolve_eq (same : SameFor files files' k k') : k.resolve files = k'.resolve files' := by
  unfold resolve
  rw [← same.authMode_eq]
  cases selected : k.authMode with
  | error p => rfl
  | ok mode =>
    cases mode with
    | anonymous => rfl
    | static =>
      obtain ⟨access, secret, token⟩ := same.static selected
      simp only [bind, Except.bind, KeySource.static, access, secret, token, same.region]
    | profile =>
      obtain ⟨name, stored⟩ := same.profile selected
      simp only [bind, Except.bind, name, stored, same.region]

/-- The region that is asked for is no input of a mode. -/
theorem SameFor.withRegion (same : SameFor files files' k k') (region : Json) :
    SameFor files files' { k with region } { k' with region } :=
  ⟨same.mode, rfl, same.profile, same.static⟩

/-- The mode of a connection is the one that its source names. -/
theorem authMode_ofConnection (c : Connection) : (ofConnection c).authMode = .ok c.authMode := by
  simp only [authMode, ofConnection, AuthMode.ofName?_name]

end KeySource

/-! ## Connections -/

/-- Two connections, each in its environment, that differ at most in inputs that authenticate and
that their mode does not read. -/
structure SameAccess (env env' : Environment) (c c' : Connection) : Prop where
  time : env.time = env'.time
  digest : env.digest = env'.digest
  others : c' = { c with
    profileName := c'.profileName
    accessKey := c'.accessKey
    secretKey := c'.secretKey
    sessionToken := c'.sessionToken }
  profile : c.authMode = .profile → c.profileName = c'.profileName ∧ env.files = env'.files
  static : c.authMode = .static →
    c.accessKey = c'.accessKey ∧ c.secretKey = c'.secretKey ∧ c.sessionToken = c'.sessionToken

variable {env env' : Environment} {c c' : Connection}

theorem SameAccess.source (same : SameAccess env env' c c') :
    KeySource.SameFor env.files env'.files (.ofConnection c) (.ofConnection c') := by
  have others := same.others
  constructor
  case mode =>
    rw [others]
    rfl
  case region =>
    rw [others]
    rfl
  case profile =>
    intro selected
    rw [KeySource.authMode_ofConnection] at selected
    obtain ⟨name, stored⟩ := same.profile (Except.ok.inj selected)
    exact ⟨congrArg (Json.ofOption .str) name, stored⟩
  case static =>
    intro selected
    rw [KeySource.authMode_ofConnection] at selected
    obtain ⟨access, secret, token⟩ := same.static (Except.ok.inj selected)
    exact ⟨congrArg (Json.ofOption .str) access, congrArg (Json.ofOption .str) secret,
      congrArg (Json.ofOption .str) token⟩

namespace Gateway

/-- An attempt reads nothing of an inactive mode: its request is the same, or cannot be made for the
same reason. -/
theorem request_eq (same : SameAccess env env' c c') (call : Call) (node : String) :
    request env c call node = request env' c' call node := by
  have signed : ∀ k, signingRegion c k = signingRegion c' k := by
    intro k
    rw [same.others]
    rfl
  have timeout : c.timeout = c'.timeout := by rw [same.others]
  simp only [request, KeySource.resolve_eq same.source, signed, timeout, same.time, same.digest]

/-- The nodes are asked in the same way. -/
theorem ask_eq (same : SameAccess env env' c c') (call : Call) (lost : Failure)
    (nodes : List String) : ask env c call lost nodes = ask env' c' call lost nodes := by
  induction nodes generalizing lost with
  | nil => rfl
  | cons node others ih =>
    unfold ask
    rw [request_eq same]
    simp only [ih]

theorem execute_eq (same : SameAccess env env' c c') (call : Call) :
    execute env c call = execute env' c' call := by
  have nodes : c.nodes = c'.nodes := by rw [same.others]
  unfold execute
  rw [nodes]
  simp only [ask_eq same]

end Gateway

namespace Discovery

/-- Pages are asked for without a look at the files: the credentials are there already. -/
theorem pages_eq (time : env.time = env'.time) (digest : env.digest = env'.digest)
    (region : String) (k : CredentialSet) (timeout : Json) (n : Nat) (found : List Collection)
    (token : Json) :
    pages env region k timeout n found token = pages env' region k timeout n found token := by
  have made : ∀ token, request env region k timeout token = request env' region k timeout token := by
    intro token
    simp only [request, time, digest]
  induction n generalizing found token with
  | zero => rfl
  | succ n ih => simp only [pages_succ, made, ih]

end Discovery

/-! ## Operations -/

namespace Explorer

theorem search_eq (same : SameAccess env env' c c') (f : FilterState) :
    search env c f = search env' c' f := by
  have demo : c.demoMode = c'.demoMode := by rw [same.others]
  have index : c.index = c'.index := by rw [same.others]
  have compiled : Query.compile f c = Query.compile f c' := by
    rw [same.others]
    rfl
  unfold search
  rw [demo, index, compiled, same.time]
  simp only [Gateway.execute_eq same]

theorem mapping_eq (same : SameAccess env env' c c') : mapping env c = mapping env' c' := by
  have demo : c.demoMode = c'.demoMode := by rw [same.others]
  have index : c.index = c'.index := by rw [same.others]
  unfold mapping
  rw [demo, index, Gateway.execute_eq same]

theorem indices_eq (same : SameAccess env env' c c') : indices env c = indices env' c' := by
  have demo : c.demoMode = c'.demoMode := by rw [same.others]
  unfold indices
  rw [demo, Gateway.execute_eq same]

theorem discover_eq {k k' : KeySource} (time : env.time = env'.time)
    (digest : env.digest = env'.digest) (same : KeySource.SameFor env.files env'.files k k') :
    discover env k = discover env' k' := by
  have resolved : ∀ region,
      KeySource.resolve env.files { k with region } = KeySource.resolve env'.files { k' with region } :=
    fun region => KeySource.resolve_eq (same.withRegion region)
  simp only [discover, same.region, resolved, Discovery.discover,
    Discovery.pages_eq time digest]

/-- **Inactive inputs.** Whatever a connection holds for other modes than its own, and whatever the
credential files hold when its mode is not a profile, every operation sends the same requests, in
the same order, and ends with the same result or the same problem. So does discovery, for two
sources of credentials. -/
theorem operations_ignore_inactive :
    (∀ env env' c c', SameAccess env env' c c' → ∀ s : Script,
      (∀ call, (Gateway.execute env c call).run s = (Gateway.execute env' c' call).run s) ∧
      (∀ f, (search env c f).run s = (search env' c' f).run s) ∧
      (mapping env c).run s = (mapping env' c').run s ∧
      (indices env c).run s = (indices env' c').run s) ∧
    ∀ (env env' : Environment) (k k' : KeySource), env.time = env'.time →
      env.digest = env'.digest → KeySource.SameFor env.files env'.files k k' → ∀ s : Script,
      (discover env k).run s = (discover env' k').run s := by
  constructor
  case left =>
    intro env env' c c' same s
    refine ⟨fun call => ?_, fun f => ?_, ?_, ?_⟩
    · rw [Gateway.execute_eq same]
    · rw [search_eq same]
    · rw [mapping_eq same]
    · rw [indices_eq same]
  case right =>
    intro env env' k k' time digest same s
    rw [discover_eq time digest same]

/-! ## A malformed file beside static keys -/

/-- No files, and a credentials file that cannot be read. -/
def unstored : Environment := { files := ⟨"/home/user/.aws", none, none⟩, time := 1440938160 }

def misstored : Environment :=
  { files := ⟨"/home/user/.aws", some "[default", none⟩, time := 1440938160 }

/-- A connection with keys, and one with the same keys and the name of a profile. -/
def withKeys : Connection :=
  { nodes := ["http://a"], authMode := .static, accessKey := some "AK", secretKey := some "SK" }

def withProfile : Connection := { withKeys with profileName := some "prod" }

/-- The source of a profile, and the same with keys. -/
def ofProfile : KeySource := { mode := .str "profile", profileName := .str "prod" }

def ofProfileWithKeys : KeySource := { ofProfile with accessKey := .str "AK", secretKey := .str "SK" }

theorem sameAccess_withProfile : SameAccess unstored misstored withKeys withProfile :=
  ⟨rfl, rfl, rfl, nofun, fun _ => ⟨rfl, rfl, rfl⟩⟩

theorem sameFor_ofProfile :
    KeySource.SameFor misstored.files misstored.files ofProfile ofProfileWithKeys := by
  refine ⟨rfl, rfl, fun _ => ⟨rfl, rfl⟩, fun selected => ?_⟩
  cases selected

theorem operations_ignore_inactive_malformed :
    SameAccess unstored misstored withKeys withProfile ∧
    KeySource.SameFor misstored.files misstored.files ofProfile ofProfileWithKeys ∧
    let s : Script := ⟨[.received { status := 200 }], false⟩
    (search unstored withKeys {}).run s = (search misstored withProfile {}).run s ∧
      (discover misstored ofProfile).run s = (discover misstored ofProfileWithKeys).run s :=
  ⟨sameAccess_withProfile, sameFor_ofProfile,
    (operations_ignore_inactive.1 _ _ _ _ sameAccess_withProfile _).2.1 {},
    operations_ignore_inactive.2 _ _ _ _ rfl rfl sameFor_ofProfile _⟩

end Explorer

end IndexExplorer
