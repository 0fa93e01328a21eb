import IndexExplorer.Problem
import IndexExplorer.Url.Ip

/-!
Files of the host that settings refer to by their path.

Nothing on the host is known but what every host has: the directories next to its root, and an
empty file. Any other file is missing, and no file is a program.
-/
namespace IndexExplorer.HostFile

/-- Where a path has led so far. -/
inductive Place where
  | root
  | directory (name : String)
  /-- a directory that relative paths begin at, or one above it -/
  | current
  | emptyFile
deriving DecidableEq, Repr

/-- The directories next to the root. -/
def directories : List String := [
  "bin", "dev", "etc", "home", "lib", "media", "mnt", "opt", "proc", "root", "run", "sbin", "srv",
  "sys", "tmp", "usr", "var"]

/-- How many bytes a path may have. -/
def pathLimit : Nat := 4095

/-- How many bytes a name between slashes may have. -/
def nameLimit : Nat := 255

/-- The place that a name leads to. -/
def Place.enter (p : Place) (name : String) : Except FileFault Place :=
  if name.isEmpty || name = "." then .ok p
  else if name = ".." then .ok (match p with | .current => .current | _ => .root)
  else if p = .root && directories.contains name then .ok (.directory name)
  else if p = .directory "dev" && name = "null" then .ok .emptyFile
  else .error (if nameLimit < name.utf8ByteSize then .longName else .missing)

/-- The place of a path. -/
def find (path : String) : Except FileFault Place :=
  if pathLimit < path.utf8ByteSize then .error .longName
  else
    let start := if path.toList.head? = some '/' then .root else .current
    (Ip.splitAt '/' path.toList).foldlM (fun p name => p.enter (String.ofList name)) start

/-- The text of a file. -/
def read (path : String) : Result String :=
  if path.toList.contains '\x00' then .error (.badValue .nulInPath)
  else match find path with
    | .ok .emptyFile => .ok ""
    | .ok _ => .error (.file .directory)
    | .error f => .error (.file f)

/-- Why a command cannot be run. A name without a slash is looked for among the programs. -/
def runFault (command : List String) : Problem :=
  match command with
  | [] => .noCommand
  | program :: _ =>
    if command.any (·.toList.contains '\x00') then .badValue .nulInPath
    else match find program with
      | .ok _ => .file .notProgram
      | .error f => .file f

end IndexExplorer.HostFile
