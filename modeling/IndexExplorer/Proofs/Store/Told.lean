import IndexExplorer.Proofs.Answer.Passes
import IndexExplorer.Store.Source

/-!
Which failures come of looking for credentials.

Looking through the files ends with a fault of the files, which is told as a failure to find
credentials, or with a problem that is told as it is. The latter is never a failure.

* `NoFailure`: keys, a fault, or a problem that is no failure;
* `noFailure_signOn?`, `noFailure_ownOrigin`, `noFailure_roleOrigin`: where keys come from;
* `noFailure_keysOf`: the keys of a profile;
* `onlyCredential_resolve`, `onlyCredential_source`: all failures are failures to find credentials.
-/
namespace IndexExplorer

namespace StoreResult

/-- What is found, a fault of the files, or a problem that is no failure. -/
def NoFailure (r : StoreResult α) : Prop := ∀ p, r = .error (.other p) → p.Stray

theorem NoFailure.ok (a : α) : NoFailure (.ok a) := nofun

theorem NoFailure.error {e : StoreProblem} (stray : ∀ p, e = .other p → p.Stray) :
    NoFailure (.error e : StoreResult α) := by
  rintro p ⟨⟩
  exact stray p rfl

theorem NoFailure.fault (f : StoreFault) : NoFailure (StoreResult.fault f : StoreResult α) := nofun

theorem NoFailure.other {p : Problem} (stray : p.Stray) :
    NoFailure (StoreResult.other p : StoreResult α) :=
  .error fun _ e => StoreProblem.other.inj e ▸ stray

theorem NoFailure.bind {x : StoreResult α} {f : α → StoreResult β} (first : NoFailure x)
    (next : ∀ a, NoFailure (f a)) : NoFailure (x >>= f) := by
  cases x with
  | ok a => exact next a
  | error e => exact .error fun p other => first p (congrArg Except.error other)

theorem NoFailure.map {x : StoreResult α} (h : NoFailure x) (f : α → β) : NoFailure (x.map f) := by
  cases x with
  | ok a => exact .ok _
  | error e => exact .error fun p other => h p (congrArg Except.error other)

theorem NoFailure.ofResult {r : Result α} (h : OnlyStray r) :
    NoFailure (StoreResult.ofResult r) := by
  cases r with
  | ok a => exact .ok a
  | error p => exact .other (h p rfl)

end StoreResult

open StoreResult

/-! ## Settings -/

theorem Setting.onlyStray_integer (v : Setting) : OnlyStray v.integer := by
  cases v with
  | nested entries => exact .error nofun
  | text s => exact Json.onlyStray_toInteger (.str s)

namespace Metadata

theorem onlyStray_isEndpoint (url : String) : OnlyStray (isEndpoint url) := by
  unfold isEndpoint
  split
  · exact .ok _
  · exact .bind (Outcome.onlyStray_split url) fun u => .ok _

/-- A setting that has to be a whole number. -/
theorem noFailure_whole (v : Option Setting) :
    NoFailure (match v with
      | some v => StoreResult.ofResult (v.integer.map fun _ => ())
      | none => .ok ()) := by
  split
  · exact .ofResult ((Setting.onlyStray_integer _).map _)
  · exact .ok _

/-- A setting that has to be the URL of an endpoint. -/
theorem noFailure_endpoint (v : Option Setting) :
    NoFailure (match v with
      | some (.nested _) => StoreResult.other .wrongKind
      | some (.text url) => do
        let sound ← StoreResult.ofResult (isEndpoint url)
        if !url.isEmpty && !sound then StoreResult.fault (.endpoint url) else pure ()
      | none => pure ()) := by
  split
  · exact .other nofun
  · refine .bind (.ofResult (onlyStray_isEndpoint _)) fun sound => ?_
    split
    · exact .fault _
    · exact .ok _
  · exact .ok _

theorem noFailure_check (p : Profile) : NoFailure (check p) := by
  -- The endpoint is looked at whatever the mode is, also behind one that is refused.
  have endpoint := noFailure_endpoint (p.get? "ec2_metadata_service_endpoint")
  refine .bind (noFailure_whole (p.get? "metadata_service_timeout")) fun _ =>
    .bind (noFailure_whole (p.get? "metadata_service_num_attempts")) fun _ => ?_
  dsimp only
  split
  · exact .bind (.other nofun) fun _ => endpoint
  · split
    · exact .bind (.fault _) fun _ => endpoint
    · exact endpoint
  · exact endpoint

end Metadata

theorem noFailure_durationOf (p : Profile) : NoFailure (RoleRequest.durationOf p) := by
  unfold RoleRequest.durationOf
  split
  · exact .ok _
  · exact .other nofun
  · split <;> exact .ok _

theorem RoleRequest.problem_ne_other (r : RoleRequest) (host : String) (p : Problem) :
    r.problem host ≠ .other p := by
  unfold problem
  split <;> exact nofun

theorem Keys.noFailure_ofProfile (source : String) (p : Option Profile) :
    NoFailure (ofProfile source p) := by
  unfold ofProfile
  split
  · exact .ok _
  · split
    · exact .fault _
    · exact .ok _

theorem HostFile.stray_runFault (command : List String) : (runFault command).Stray := by
  unfold runFault
  split
  · exact nofun
  · split
    · exact nofun
    · split <;> exact nofun

theorem KeyOrigin.noFailure_tokenOf (v : Setting) : NoFailure (tokenOf v) := by
  cases v with
  | nested entries => exact .other nofun
  | text path =>
    refine .ofResult ?_
    unfold HostFile.read
    split
    · exact .error nofun
    · split
      · exact .ok _
      · exact .error nofun
      · exact .error nofun

theorem KeyOrigin.noFailure_first {rs : List (StoreResult (Option KeyOrigin))}
    (all : ∀ r ∈ rs, NoFailure r) : NoFailure (first rs) := by
  induction rs with
  | nil => exact .ok _
  | cons r rs ih =>
    obtain ⟨own, rest⟩ := List.forall_mem_cons.mp all
    unfold first
    split
    · rename_i e
      cases e
    · rename_i e
      cases e
      exact ih rest
    · rename_i e
      cases e
      exact own

namespace Store

variable (s : Store)

/-! ## Signing on -/

theorem noFailure_tokenSection? (name : String) : NoFailure (s.tokenSection? name) := by
  unfold tokenSection?
  split
  · exact .ok _
  · exact .other nofun
  · dsimp only
    split
    · exact .fault _
    · split
      · exact .ok _
      · exact .fault _

/-- The host of a service in a region, or its host for all regions. -/
theorem noFailure_regionHost (asking service : String) (region : Option String) :
    NoFailure (do
      let _ ← s.tokenSection? asking
      match region with
      | none => return service ++ ".amazonaws.com"
      | some r =>
        let host := service ++ "." ++ r ++ ".amazonaws.com"
        if r.isEmpty then
          StoreResult.other (.badValue (.address ("Invalid endpoint: https://" ++ host)))
        else return host) := by
  refine .bind (noFailure_tokenSection? s asking) fun _ => ?_
  split
  · exact .ok _
  · dsimp only
    split
    · exact .other nofun
    · exact .ok _

theorem noFailure_serviceHost (asking service : String) (region : Option Setting) :
    NoFailure (s.serviceHost asking service region) := by
  have host := noFailure_regionHost s asking service
  unfold serviceHost
  dsimp only
  split
  · exact host none
  · exact .bind (.other nofun) host
  · split
    · exact host (some _)
    · exact .bind (.fault _) host

theorem noFailure_joinSection (p options : Profile) : NoFailure (joinSection p options) := by
  induction options generalizing p with
  | nil => exact .ok p
  | cons e options ih =>
    obtain ⟨key, value⟩ := e
    unfold joinSection
    split
    · split
      · exact ih p
      · exact .fault _
    · exact ih _

/-- The way to sign on, once all its settings are there. -/
theorem noFailure_complete (name : String) (p : Profile) (session : Option String) :
    NoFailure (match p.get? "sso_start_url", p.get? "sso_region", p.missing signOnKeys with
      | some startUrl, some region, [] =>
        (return some ⟨name, startUrl, region, session⟩ : StoreResult (Option SignOn))
      | _, _, missing => StoreResult.fault (.partialSignOn name missing)) := by
  split
  · exact .ok _
  · exact .fault _

theorem noFailure_signOn? (name : String) : NoFailure (s.signOn? name) := by
  have complete := noFailure_complete name
  unfold signOn?
  dsimp only
  split
  · exact .ok _
  · split
    · exact complete _ _
    · exact .bind (.other nofun) fun found => complete found.1 found.2
    · split
      · exact .bind (.fault _) fun found => complete found.1 found.2
      · exact .bind (noFailure_joinSection _ _) fun p => complete p (some _)

theorem stray_of_problem {o : SignOn} {asking : String} {p : Problem}
    (h : o.problem s asking = .other p) : p.Stray := by
  unfold SignOn.problem at h
  split at h
  · rename_i e host
    exact noFailure_serviceHost s _ _ _ p (h ▸ host)
  · split at h
    · split at h
      · rename_i e named
        exact noFailure_tokenSection? s _ p (h ▸ named)
      · cases h
    · split at h
      · cases h
      · cases h
        exact nofun

/-! ## Where keys come from -/

theorem noFailure_ownOrigin (name : String) : NoFailure (s.ownOrigin name) := by
  refine KeyOrigin.noFailure_first ?_
  simp only [List.forall_mem_cons]
  refine ⟨?_, (noFailure_signOn? s name).map _, (Keys.noFailure_ofProfile _ _).map _, ?_, ?_,
    (Keys.noFailure_ofProfile _ _).map _, nofun⟩
  · unfold webIdentity?
    split
    · exact .ok _
    · exact .fault _
    · exact .ok _
  · unfold login?
    split
    · exact .fault _
    · exact .ok _
  · unfold command?
    split
    · exact .ok _
    · exact .other nofun
    · split
      · exact .other (HostFile.stray_runFault _)
      · exact .other nofun
      · exact .other nofun

theorem noFailure_roleOrigin (fuel : Nat) (visited : List String) (name : String) :
    NoFailure (s.roleOrigin fuel visited name) := by
  induction fuel generalizing visited name with
  | zero => exact .fault _
  | succ fuel ih =>
    unfold roleOrigin
    refine .bind (.bind (noFailure_durationOf _) fun _ => .ok _) fun request => ?_
    split
    · exact .fault _
    · exact .fault _
    · split
      · exact .fault _
      · exact .fault _
    · exact .other nofun
    · split
      · exact .fault _
      · split
        · exact .fault _
        · split
          · refine .bind (noFailure_ownOrigin s _) fun found => ?_
            split
            · exact .fault _
            · exact .ok _
          · exact .bind (ih _ _) fun base => .ok _

theorem noFailure_origin (name : String) : NoFailure (s.origin name) := by
  unfold origin
  split
  · exact (noFailure_roleOrigin s _ _ _).map some
  · exact noFailure_ownOrigin s name

theorem noFailure_keys (o : KeyOrigin) (asking : String) : NoFailure (o.keys s asking) := by
  induction o with
  | here keys => exact .ok keys
  | webIdentity tokenFile request =>
    refine .bind (KeyOrigin.noFailure_tokenOf _) fun token => ?_
    refine .bind (noFailure_serviceHost s _ _ _) fun host => ?_
    exact .error fun p other => absurd other (RoleRequest.problem_ne_other _ _ p)
  | signOn how => exact .error fun p other => stray_of_problem s other
  | role request base ih =>
    refine .bind ih fun keys => ?_
    refine .bind (noFailure_serviceHost s _ _ _) fun host => ?_
    exact .error fun p other => absurd other (RoleRequest.problem_ne_other _ _ p)

/-- Looking for the keys of a profile tells of no failure. -/
theorem noFailure_keysOf (name : String) : NoFailure (s.keysOf name) := by
  refine .bind (Metadata.noFailure_check _) fun _ => ?_
  refine .bind (noFailure_origin s name) fun found => ?_
  split
  · exact .ok _
  · exact .bind (noFailure_keys s _ name) fun keys => .ok _

end Store

/-! ## Failures -/

/-- All failures are failures to find credentials. -/
def OnlyCredential (r : Result α) : Prop :=
  ∀ g, r = .error (.failure g) → ∃ message, g = .credential message none

namespace OnlyCredential

theorem failed (message : String) :
    OnlyCredential (.error (StoreProblem.failure message) : Result α) := by
  rintro g ⟨⟩
  exact ⟨message, rfl⟩

theorem of_stray {r : Result α} (stray : OnlyStray r) : OnlyCredential r :=
  fun g h => absurd rfl (stray _ h g)

theorem bind {x : Result α} {f : α → Result β} (first : OnlyCredential x)
    (next : ∀ a, OnlyCredential (f a)) : OnlyCredential (x >>= f) := by
  cases x with
  | ok a => exact next a
  | error p =>
    rintro g ⟨⟩
    exact first g rfl

theorem told {r : StoreResult α} (h : NoFailure r) {e : StoreProblem} (ended : r = .error e)
    (profile : String) : OnlyCredential (.error (e.told profile) : Result β) := by
  cases e with
  | fault f => exact failed _
  | other p => exact of_stray (.error (h p ended))

end OnlyCredential

theorem onlyStray_credentials (k : Keys) (region : Json) : OnlyStray (k.credentials region) :=
  onlyStray_result _

/-- Looking for the credentials of a profile fails with failures to find them alone, -/
theorem onlyCredential_resolve (f : CredentialFiles) (name region : Json) :
    OnlyCredential (Store.resolve f name region) := by
  unfold Store.resolve
  dsimp only
  split
  · exact .failed _
  · split
    · exact .failed _
    · rename_i s read
      split
      · exact .failed _
      · split
        · rename_i e ended
          exact .told (Store.noFailure_keysOf s _) ended _
        · exact .failed _
        · split
          · exact .failed _
          · split
            · exact .of_stray (onlyStray_credentials _ _)
            · exact .of_stray (onlyStray_credentials _ _)

/-- and so does looking for those of any source. -/
theorem onlyCredential_source (files : CredentialFiles) (k : KeySource) :
    OnlyCredential (k.resolve files) := by
  have mode : OnlyStray k.authMode := by
    unfold KeySource.authMode
    dsimp only
    split
    · split
      · exact .ok _
      · exact .error nofun
    · exact .error nofun
  have keyed : OnlyCredential k.static := by
    unfold KeySource.static
    split
    · exact .failed _
    · split
      · exact .failed _
      · exact .of_stray (onlyStray_result _)
  refine .bind (.of_stray mode) fun m => ?_
  cases m with
  | anonymous => exact nofun
  | static => exact .bind keyed fun c => nofun
  | profile => exact .bind (onlyCredential_resolve files _ _) fun c => nofun

end IndexExplorer
