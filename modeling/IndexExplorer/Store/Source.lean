import IndexExplorer.Connection
import IndexExplorer.Store.Resolve

/-!
Where the credentials of a request come from: a named profile, static keys, or nowhere.
-/
namespace IndexExplorer

/-- How a caller says where credentials come from; values of any kind may stand in the fields. -/
structure KeySource where
  mode : Json
  profileName : Json := .null
  accessKey : Json := .null
  secretKey : Json := .null
  sessionToken : Json := .null
  region : Json := .null

namespace KeySource

/-- The source that a connection chooses. -/
def ofConnection (c : Connection) : KeySource where
  mode := .str c.authMode.name
  profileName := .ofOption .str c.profileName
  accessKey := .ofOption .str c.accessKey
  secretKey := .ofOption .str c.secretKey
  sessionToken := .ofOption .str c.sessionToken
  region := .str c.region

/-- The names of the fields of a source besides its mode. -/
def fieldNames : List String :=
  ["profile_name", "access_key", "secret_key", "session_token", "region"]

/-- A source from given fields. -/
def ofGiven (mode : Json) (given : Members) : KeySource where
  mode
  profileName := given.getOrNull "profile_name"
  accessKey := given.getOrNull "access_key"
  secretKey := given.getOrNull "secret_key"
  sessionToken := given.getOrNull "session_token"
  region := given.getOrNull "region"

/-- The mode of a source. -/
def authMode (k : KeySource) : Result AuthMode :=
  let bad := .error (.badValue (.authMode k.mode.shownQuoted))
  match k.mode with
  | .str s =>
    match AuthMode.ofName? s with
    | some m => .ok m
    | none => bad
  | _ => bad

/-- Credentials from static keys, of which neither may be empty. -/
def static (k : KeySource) : Result CredentialSet :=
  if !k.accessKey.given then
    .error (StoreProblem.failure "Static credentials selected but the access key is empty.")
  else if !k.secretKey.given then
    .error (StoreProblem.failure "Static credentials selected but the secret key is empty.")
  else
    CredentialSet.ofValues k.accessKey k.secretKey k.sessionToken k.region

/-- The profile that counts when none is named. -/
def defaultProfile : Json := .str "default"

/-- The credentials of a source; none for anonymous access. Only the fields of the chosen mode are
read. -/
def resolve (files : CredentialFiles) (k : KeySource) : Result (Option CredentialSet) := do
  match ← k.authMode with
  | .anonymous => return none
  | .static => return some (← k.static)
  | .profile =>
    let name := if k.profileName.given then k.profileName else defaultProfile
    return some (← Store.resolve files name k.region)

/-- The credentials for given fields, of which the mode has to be there. -/
def resolveGiven (files : CredentialFiles) (given : Members) : Result (Option CredentialSet) :=
  if given.hasNames ["mode"] fieldNames then
    (ofGiven (given.getOrNull "mode") given).resolve files
  else .error .wrongKind

end KeySource

end IndexExplorer
