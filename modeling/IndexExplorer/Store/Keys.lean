import IndexExplorer.CredentialSet
import IndexExplorer.Problem
import IndexExplorer.Store.Fault
import IndexExplorer.Store.Files

/-!
Keys as they stand in a profile.
-/
namespace IndexExplorer

/-- Keys as they stand in a file. -/
structure Keys where
  accessKey : Setting
  secretKey : Setting
  token : Option Setting := none
deriving DecidableEq

namespace Profile

/-- The profile has keys of its own, or one of them. -/
def hasKeys (p : Profile) : Bool :=
  (p.get? "aws_secret_access_key").isSome || (p.get? "aws_access_key_id").isSome

/-- A key that is there and not empty. -/
def filled? (p : Profile) (key : String) : Option Setting :=
  (p.get? key).filter (·.toJson.given)

/-- Which of some keys are not there. -/
def missing (p : Profile) (keys : List String) : List String :=
  keys.filter fun k => (p.get? k).isNone

end Profile

namespace Keys

/-- The keys in a profile of one file. A profile with an access key has to have a secret key. -/
def ofProfile (source : String) (p : Option Profile) : StoreResult (Option Keys) :=
  match p.bind fun p => (p.get? "aws_access_key_id").map fun access => (p, access) with
  | none => .ok none
  | some (p, accessKey) =>
    match p.get? "aws_secret_access_key" with
    | none => StoreResult.fault (.partialKeys source "aws_secret_access_key")
    | some secretKey =>
      .ok (some ⟨accessKey, secretKey,
        p.get? "aws_security_token" <|> p.get? "aws_session_token"⟩)

/-- Both keys are there. -/
def isComplete (k : Keys) : Bool := k.accessKey.toJson.given && k.secretKey.toJson.given

end Keys

/-- Credentials from values of any kind; an empty token counts as none. -/
def CredentialSet.ofValues (accessKey secretKey token region : Json) : Result CredentialSet :=
  Checked.result (CredentialSet.mk
    <$> (Rule.text accessKey).under (.member "access_key")
    <*> (Rule.text secretKey).under (.member "secret_key")
    <*> ((Rule.optional Rule.text) (if token.given then token else .null)).under
      (.member "session_token")
    <*> ((Rule.optional Rule.text) region).under (.member "region")
    <*> pure none)

/-- The keys as credentials for a region. -/
def Keys.credentials (k : Keys) (region : Json) : Result CredentialSet :=
  CredentialSet.ofValues k.accessKey.toJson k.secretKey.toJson
    ((k.token.map (·.toJson)).getD .null) region

end IndexExplorer
