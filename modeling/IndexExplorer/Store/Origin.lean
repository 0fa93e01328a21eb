import IndexExplorer.HostFile
import IndexExplorer.Store.Role
import IndexExplorer.Store.SignOn

/-!
Where the keys of a profile come from.

A profile that takes on a role leaves its keys to a chain of other profiles. Any other has keys of
its own, or leaves them to a web identity, to signing on or to a command. The search finds the
origin and with it the faults of the files; only then are the keys fetched, which fails for all
origins but the files.

* `keys_eq_ok_iff`: only keys that stand in a file are ever fetched;
* `first_eq_ok_some`: what is found first comes from one of the places looked at.
-/
namespace IndexExplorer

/-- Where the keys of a profile come from. -/
inductive KeyOrigin where
  | here (keys : Keys)
  | webIdentity (tokenFile : Setting) (request : RoleRequest)
  | signOn (how : SignOn)
  | role (request : RoleRequest) (base : KeyOrigin)

namespace KeyOrigin

/-- The token in a file. -/
def tokenOf : Setting → StoreResult String
  | .text path => StoreResult.ofResult (HostFile.read path)
  | .nested _ => StoreResult.other .wrongKind

/-- The keys of an origin, fetched for the profile that asks. Its region is where roles are asked
for. -/
def keys (s : Store) (asking : String) : KeyOrigin → StoreResult Keys
  | here keys => .ok keys
  | webIdentity tokenFile request => do
    let token ← tokenOf tokenFile
    let host ← s.serviceHost asking "sts" ((s.profile asking).get? "region")
    throw ({ request with token := some token }.problem host)
  | signOn how => throw (how.problem s asking)
  | role request base => do
    let _ ← base.keys s asking
    let host ← s.serviceHost asking "sts" ((s.profile asking).get? "region")
    throw (request.problem host)

/-- The first origin that is found. -/
def first : List (StoreResult (Option KeyOrigin)) → StoreResult (Option KeyOrigin)
  | [] => .ok none
  | .ok none :: rest => first rest
  | found :: _ => found

theorem bind_ne_ok {x : StoreResult α} {f : α → StoreResult β} {b : β} (h : ∀ a, f a ≠ .ok b) :
    (x >>= f) ≠ .ok b := by
  cases x with
  | error e => exact nofun
  | ok a => exact h a

theorem keys_eq_ok_iff {s : Store} {asking : String} {o : KeyOrigin} {k : Keys} :
    o.keys s asking = .ok k ↔ o = .here k := by
  cases o with
  | here found => simp [KeyOrigin.keys]
  | webIdentity tokenFile request =>
    refine iff_of_false (fun h => ?_) nofun
    refine bind_ne_ok (fun token => ?_) h
    exact bind_ne_ok fun host => nofun
  | signOn how => exact iff_of_false nofun nofun
  | role request base =>
    refine iff_of_false (fun h => ?_) nofun
    refine bind_ne_ok (fun keys => ?_) h
    exact bind_ne_ok fun host => nofun

theorem first_eq_ok_some {rs : List (StoreResult (Option KeyOrigin))} {o : KeyOrigin}
    (h : first rs = .ok (some o)) : .ok (some o) ∈ rs := by
  induction rs with
  | nil => simp [first] at h
  | cons r rest ih =>
    match r, h with
    | .ok none, h => exact List.mem_cons_of_mem _ (ih h)
    | .ok (some p), h => exact h ▸ List.mem_cons_self
    | .error e, h => simp [first] at h

end KeyOrigin

namespace Store

/-- A profile that leaves its keys to a web identity, which has to name a role. -/
def webIdentity? (p : Profile) : StoreResult (Option KeyOrigin) :=
  match p.filled? "web_identity_token_file", p.filled? "role_arn" with
  | none, _ => .ok none
  | some _, none => StoreResult.fault .noRole
  | some file, some arn =>
    .ok (some (.webIdentity file { arn, sessionName := p.get? "role_session_name" }))

/-- A profile that leaves its keys to a login, which nothing here can do. -/
def login? (p : Profile) : StoreResult (Option KeyOrigin) :=
  if (p.get? "login_session").isSome then StoreResult.fault .noLogin else .ok none

/-- A profile that leaves its keys to a command, which cannot be run. -/
def command? (p : Profile) : StoreResult (Option KeyOrigin) :=
  match p.get? "credential_process" with
  | none => .ok none
  | some (.nested _) => StoreResult.other .noSuchPart
  | some (.text command) =>
    match Text.words command with
    | .ok words => StoreResult.other (HostFile.runFault words)
    | .error .openQuote => StoreResult.other (.badValue .openQuote)
    | .error .openEscape => StoreResult.other (.badValue .openEscape)

/-- The origin of the keys of a profile itself. Keys in the credentials file come before a login or
a command, those in the config file after them. -/
def ownOrigin (s : Store) (name : String) : StoreResult (Option KeyOrigin) :=
  let p := s.profile name
  KeyOrigin.first [
    webIdentity? p,
    (s.signOn? name).map (·.map .signOn),
    (Keys.ofProfile "shared-credentials-file" (s.credentials.get? name)).map (·.map .here),
    login? p,
    command? p,
    (Keys.ofProfile "config-file" (s.config.get? name)).map (·.map .here)]

/-- Sources of credentials outside of the files. -/
def outsideSources : List String := ["Environment", "Ec2InstanceMetadata", "EcsContainer"]

/-- The origin of the keys for a role. The chain of source profiles is followed until it ends in a
profile that has no role to take on, or has keys; it may not come back to a profile visited. -/
def roleOrigin (s : Store) : Nat → (visited : List String) → (name : String) →
    StoreResult KeyOrigin
  | 0, visited, name => StoreResult.fault (.cycle name visited)
  | fuel + 1, visited, name => do
    let p := s.profile name
    let request ← RoleRequest.ofProfile p
    match p.get? "credential_source", p.get? "source_profile" with
    | some _, some _ => StoreResult.fault (.bothSources name)
    | none, none =>
      StoreResult.fault (.partialKeys "assume-role" "source_profile or credential_source")
    | some source, none =>
      if !outsideSources.contains source.shown then StoreResult.fault (.badSource source.shown name)
      else StoreResult.fault (.emptySource source.shown name)
    | none, some (.nested _) => StoreResult.other .wrongKind
    | none, some (.text source) =>
      match s.all.get? source with
      | none => StoreResult.fault (.missingSource source name)
      | some q =>
        if visited.contains source && (source ≠ name || !q.hasKeys) then
          StoreResult.fault (.cycle source visited)
        else if q.hasKeys || !q.hasRole then
          match ← s.ownOrigin source with
          | none => StoreResult.fault (.noCredentials source)
          | some base => return .role request base
        else return .role request (← roleOrigin s fuel (visited ++ [source]) source)

/-- The origin of the keys of a profile. A chain of roles is no longer than there are profiles. -/
def origin (s : Store) (name : String) : StoreResult (Option KeyOrigin) :=
  if (s.profile name).hasRole then
    (s.roleOrigin (s.all.length + 1) [name] name).map some
  else s.ownOrigin name

end Store

end IndexExplorer
