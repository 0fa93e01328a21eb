import IndexExplorer.Store.Metadata
import IndexExplorer.Store.Origin

/-!
The credentials of a profile.
-/
namespace IndexExplorer.Store

/-- The keys of a profile that exists. -/
def keysOf (s : Store) (name : String) : StoreResult (Option Keys) := do
  Metadata.check (s.profile name)
  match ← s.origin name with
  | none => return none
  | some o => return some (← o.keys s name)

/-- The credentials of a profile, for a region or else for the one that the profile names. The
name and the region are values as callers give them. -/
def resolve (f : CredentialFiles) (name region : Json) : Result CredentialSet :=
  let shown := name.shown
  let failed := fun (message : String) => .error (StoreProblem.failure message)
  if f.credentials.isNone && f.config.isNone then
    failed ("No AWS credential store found (looked in " ++ f.credentialsPath ++ " and " ++
      f.configPath ++ ").")
  else
    match read f with
    | .error path => .error (StoreProblem.told shown (.fault (.unreadable path)))
    | .ok s =>
      let found := match name with
        | .str n => (s.all.get? n).map fun p => (n, p)
        | _ => none
      match found with
      | none => failed ("Profile '" ++ shown ++ "' not found in the AWS credential store.")
      | some (n, p) =>
        let unusable := failed ("Profile '" ++ shown ++ "' did not yield any credentials.")
        match s.keysOf n with
        | .error e => .error (e.told shown)
        | .ok none => unusable
        | .ok (some keys) =>
          if !keys.isComplete then unusable
          else if region.given then keys.credentials region
          else keys.credentials (((p.get? "region").map (·.toJson)).getD .null)

end IndexExplorer.Store
