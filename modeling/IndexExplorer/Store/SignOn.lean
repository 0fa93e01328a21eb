import IndexExplorer.Store.Keys

/-!
Profiles that sign on for their keys.

Such a profile names a role and an account, and where to sign on; a section for signing on may
hold the latter for many profiles. Signing on leaves a token behind for the services that hand out
keys. There are no such tokens here, so that all a profile can do is to be malformed in one of many
ways, or else to lack its token.
-/
namespace IndexExplorer

/-- How a profile signs on, as far as it is sound. -/
structure SignOn where
  profile : String
  startUrl : Setting
  region : Setting
  session : Option String
deriving DecidableEq

/-- The name of a region: up to 63 letters, digits and hyphens, with no hyphen at an end, and not
digits alone. -/
def isRegionName (cs : List Char) : Bool :=
  cs.length ≤ 63 && cs.all (fun c => c.isAlphanum || c = '-') && cs.head? != some '-' &&
    cs.getLast? != some '-' && (cs.isEmpty || !cs.all Char.isDigit)

namespace Store

/-- The section that the tokens of a profile come from, if it names one. -/
def tokenSection? (s : Store) (name : String) : StoreResult (Option String) :=
  match (s.profile name).get? "sso_session" with
  | none => .ok none
  | some (.nested _) => StoreResult.other .wrongKind
  | some (.text session) =>
    let options : Profile := (s.signOn.get? session).getD []
    if options.isEmpty then StoreResult.fault (.emptySession name session)
    else
      match options.missing ["sso_start_url", "sso_region"] with
      | [] => .ok (some session)
      | keys => StoreResult.fault (.partialSession name keys)

/-- The host of a service in a region, when the region and the tokens of the profile that asks are
sound. -/
def serviceHost (s : Store) (asking service : String) (region : Option Setting) :
    StoreResult String := do
  let region ← match region with
    | none => pure none
    | some (.nested _) => StoreResult.other .wrongKind
    | some (.text r) =>
      if isRegionName r.toList then pure (some r) else StoreResult.fault (.badRegion r)
  let _ ← s.tokenSection? asking
  match region with
  | none => return service ++ ".amazonaws.com"
  | some r =>
    let host := service ++ "." ++ r ++ ".amazonaws.com"
    if r.isEmpty then
      StoreResult.other (.badValue (.address ("Invalid endpoint: https://" ++ host)))
    else return host

/-- A profile with the keys of a section for signing on. Where both have a key they have to agree
on it. -/
def joinSection : Profile → Profile → StoreResult Profile
  | p, [] => .ok p
  | p, (k, v) :: rest =>
    match p.get? k with
    | some w =>
      if w = v then joinSection p rest
      else StoreResult.fault (.signOnConflict k w.shown v.shown)
    | none => joinSection (p.put k v) rest

/-- The keys that a profile has to have in order to sign on. -/
def signOnKeys : List String := ["sso_role_name", "sso_account_id", "sso_start_url", "sso_region"]

/-- How a profile signs on, if it does: the role or the account tells. -/
def signOn? (s : Store) (name : String) : StoreResult (Option SignOn) := do
  let p := s.profile name
  if (p.get? "sso_role_name").isNone && (p.get? "sso_account_id").isNone then return none
  let (p, session) ← match p.get? "sso_session" with
    | none => pure (p, none)
    | some (.nested _) => StoreResult.other .wrongKind
    | some (.text session) =>
      match s.signOn.get? session with
      | none => StoreResult.fault (.noSignOn session)
      | some options => do pure (← joinSection p options, some session)
  match p.get? "sso_start_url", p.get? "sso_region", p.missing signOnKeys with
  | some startUrl, some region, [] => return some ⟨name, startUrl, region, session⟩
  | _, _, missing => StoreResult.fault (.partialSignOn name missing)

end Store

/-- Why signing on gives no keys to the profile that asks. -/
def SignOn.problem (o : SignOn) (s : Store) (asking : String) : StoreProblem :=
  match s.serviceHost asking "portal.sso" o.region with
  | .error e => e
  | .ok _ =>
    match o.session with
    | some session =>
      match s.tokenSection? o.profile with
      | .error e => e
      | .ok _ => .fault (.noToken session)
    | none =>
      match o.startUrl with
      | .text url => .fault (.noToken url)
      | .nested _ => .other .noSuchPart

end IndexExplorer
