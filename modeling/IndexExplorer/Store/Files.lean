import IndexExplorer.Json.Display
import IndexExplorer.Store.Ini

/-!
The shared credential files and the profiles in them.

Two files hold profiles: every section of the credentials file is one, and of the config file the
sections `default` and `profile NAME`. A profile has the keys of both, those of the credentials
file first. The config file also has sections for signing on, which profiles refer to.
-/
namespace IndexExplorer

/-- The shared files, as far as they exist, and the directory they are in. -/
structure CredentialFiles where
  directory : String
  credentials : Option String := none
  config : Option String := none

namespace CredentialFiles

/-- The place of the credentials file. -/
def credentialsPath (f : CredentialFiles) : String := f.directory ++ "/credentials"

/-- The place of the config file. -/
def configPath (f : CredentialFiles) : String := f.directory ++ "/config"

end CredentialFiles

/-- The value of a key: a text, or keys and values of its own. -/
inductive Setting where
  | text (s : String)
  | nested (entries : List (String × String))
deriving DecidableEq, Repr

namespace Setting

/-- The keys and values on the lines of a value that begins with a line end; `none` when a line
has no equals sign. -/
def entries? (lines : List (List Char)) : Option (List (String × String)) :=
  let kept := (lines.map (Text.trimWhile Text.isBlank)).filter (!·.isEmpty)
  kept.mapM fun line =>
    if line.contains '=' then
      let (k, v) := UrlParts.cutAt '=' line
      some (String.ofList (Text.trimWhile Text.isBlank k),
        String.ofList (Text.trimWhile Text.isBlank v))
    else none

/-- The value of a key, as it stands in a file. -/
def ofText? (s : String) : Option Setting :=
  match s.toList with
  | '\n' :: rest => (entries? (Text.textLines rest)).map .nested
  | _ => some (.text s)

/-- The value as JSON. -/
def toJson : Setting → Json
  | .text s => .str s
  | .nested es => .obj (Named.ofList (es.map fun e => (e.1, Json.str e.2)))

/-- The value as text, as messages show it. -/
def shown (s : Setting) : String := s.toJson.shown

end Setting

/-- The keys of a profile. -/
abbrev Profile := Named Setting

/-- Profiles by name, in order. -/
abbrev Profiles := Named Profile

namespace Profiles

/-- The sections of a file; a file that does not exist has none, and `none` is a malformed one. -/
def ofFile? (file : Option String) : Option Profiles :=
  match file with
  | none => some []
  | some text =>
    (Ini.parse text).bind fun ss =>
      ss.mapM fun (n, o) =>
        (o.mapM fun (kv : String × String) => (Setting.ofText? kv.2).map fun s => (kv.1, s)).map
          fun p => (n, p)

/-- The name in the title of a section that begins with a word, when there is one name. -/
def titleName? (word title : String) : Option String :=
  if word.toList.isPrefixOf title.toList then
    match Text.words title with
    | .ok [_, name] => some name
    | _ => none
  else none

/-- The sections that have a name, by it; of two with one name the later counts. -/
def named (name? : String → Option String) (ss : Profiles) : Profiles :=
  Named.ofList (ss.filterMap fun (title, p) => (name? title).map (·, p))

/-- The name of the profile that a section of the config file is, if it is one. -/
def configName? (title : String) : Option String :=
  if title = "default" then some title else titleName? "profile" title

end Profiles

/-- What the files hold: the profiles of each file and of both together, and the sections for
signing on. -/
structure Store where
  credentials : Profiles
  config : Profiles
  all : Profiles
  signOn : Profiles

namespace Store

/-- The files read, the config file first; the path of the first that is malformed. -/
def read (f : CredentialFiles) : Except String Store :=
  match Profiles.ofFile? f.config with
  | none => .error f.configPath
  | some sections =>
    match Profiles.ofFile? f.credentials with
    | none => .error f.credentialsPath
    | some credentials =>
      let config := sections.named Profiles.configName?
      .ok {
        credentials
        config
        all := credentials.foldl (fun ps (n, p) =>
          ps.alter n fun | some q => q.overlay p | none => p) config
        signOn := sections.named (Profiles.titleName? "sso-session") }

/-- A profile by its name; without keys when it does not exist. -/
def profile (s : Store) (name : String) : Profile := (s.all.get? name).getD []

/-- The names of all profiles in order, each once; none when a file is malformed. -/
def names (f : CredentialFiles) : List String :=
  match read f with
  | .ok s => ((s.all.map (·.1)).eraseDups).mergeSort fun a b => !(b < a)
  | .error _ => []

end Store

end IndexExplorer
