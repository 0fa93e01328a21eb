import IndexExplorer.Check
import IndexExplorer.Text.Quoted

/-!
Keys that sign requests.
-/
namespace IndexExplorer

/-- Keys that sign requests. -/
structure CredentialSet where
  accessKey : String
  secretKey : String
  sessionToken : Option String := none
  region : Option String := none
  service : Option String := none
deriving DecidableEq

namespace CredentialSet

/-- Credentials as they are given. -/
def rule : Rule CredentialSet := Rule.record fun ms =>
  CredentialSet.mk <$> ms.required "access_key" Rule.text
    <*> ms.required "secret_key" Rule.text
    <*> ms.field "session_token" (Rule.optional Rule.text) none
    <*> ms.field "region" (Rule.optional Rule.text) none
    <*> ms.field "service" (Rule.optional Rule.text) none

/-- All fields of credentials. -/
def toJson (c : CredentialSet) : Json := .obj [
  ("access_key", .str c.accessKey),
  ("secret_key", .str c.secretKey),
  ("session_token", .ofOption .str c.sessionToken),
  ("region", .ofOption .str c.region),
  ("service", .ofOption .str c.service)]

/-- Credentials as they may be shown: the beginning of the access key and the region alone. -/
def shown (c : CredentialSet) : String :=
  "CredentialSet(access_key=" ++ String.ofList (c.accessKey.toList.take 4) ++ "..., region=" ++
    (match c.region with
      | some r => Text.quoted r
      | none => "None") ++ ")"

end CredentialSet

end IndexExplorer
