import IndexExplorer.Named
import IndexExplorer.Text.Blank
import IndexExplorer.Text.Lower
import IndexExplorer.Text.Lines
import IndexExplorer.Url.Parts

/-!
Files of sections with keys and values.

A section begins with its name in brackets. Keys are in lower case, and a colon or an equals sign
divides them from their values. A line that is indented more than the key above goes on with its
value. Lines that begin with `#` or `;` are comments. The section `DEFAULT` holds defaults for all
others.
-/
namespace IndexExplorer.Ini

/-- The keys of a section with the lines of their values. -/
abbrev Options := Named (List String)

/-- The section of defaults. -/
def defaultSection : String := "DEFAULT"

/-- What has been read so far: the sections in order, the section and key that lines go on with,
and the indentation of that key. -/
structure State where
  defaults : Options := []
  sections : Named Options := []
  current : Option String := none
  key : Option String := none
  indent : Nat := 0

namespace State

/-- The options that lines go into. -/
def options (s : State) : Options :=
  match s.current with
  | some n => if n = defaultSection then s.defaults else (s.sections.get? n).getD []
  | none => []

/-- The options that lines go into, changed. -/
def onOptions (s : State) (f : Options → Options) : State :=
  match s.current with
  | some n =>
    if n = defaultSection then { s with defaults := f s.defaults }
    else { s with sections := s.sections.alter n fun o => f (o.getD []) }
  | none => s

/-- A further line of the value begun. -/
def append (s : State) (line : String) : State :=
  match s.key with
  | some k => s.onOptions (·.alter k fun lines => lines.getD [] ++ [line])
  | none => s

end State

/-- The name in brackets at the beginning of a line, which goes up to the last bracket. -/
def sectionName? (line : List Char) : Option String :=
  match line with
  | '[' :: rest =>
    if rest.contains ']' then
      let name := rest.take (rest.length - (UrlParts.afterLast ']' rest).length - 1)
      if name.isEmpty then none else some (String.ofList name)
    else none
  | _ => none

/-- The key and value of a line. -/
def keyValue? (line : List Char) : Option (String × String) :=
  let (key, rest) := UrlParts.before (fun c => c = '=' || c = ':') line
  match rest with
  | [] => none
  | _ :: value =>
    let key := Text.dropEndWhile Text.isBlank key
    if key.isEmpty then none
    else
      some (Text.lower (String.ofList key), String.ofList (Text.trimWhile Text.isBlank value))

/-- The header of a section: a new one, unless it is that of the defaults. -/
def State.enter (s : State) (name : String) : Option State :=
  let s := { s with current := some name, key := none }
  if name = defaultSection then some s
  else if s.sections.has name then none
  else some { s with sections := s.sections ++ [(name, [])] }

/-- A key of the current section, which has to be new there. -/
def State.addKey (s : State) (key value : String) : Option State :=
  if s.options.has key then none
  else some { s.onOptions (·.put key [value]) with key := some key }

/-- What a line does. -/
def step (s : State) (line : List Char) : Option State :=
  let value := Text.trimWhile Text.isBlank line
  match value with
  | [] => some (s.append "")
  | c :: _ =>
    if c = '#' || c = ';' then some s
    else
      let indent := (line.takeWhile Text.isBlank).length
      if s.current.isSome && s.key.isSome && s.indent < indent then
        some (s.append (String.ofList value))
      else
        let s := { s with indent }
        match sectionName? value with
        | some name => s.enter name
        | none =>
          if s.current.isNone then none
          else (keyValue? value).bind fun (k, v) => s.addKey k v

/-- The lines of a value, joined and without blanks at the end. -/
def joined (lines : List String) : String :=
  String.ofList (Text.dropEndWhile Text.isBlank ("\n".intercalate lines).toList)

/-- The options of a section over the defaults. -/
def merged (own defaults : Options) : Named String :=
  (own ++ defaults.filter fun (k, _) => !own.has k).map fun (k, ls) => (k, joined ls)

/-- The sections of a file in order, with their keys and values; `none` when it is malformed. -/
def parse (file : String) : Option (Named (Named String)) :=
  ((Text.fileLines file.toList).foldlM step {}).map fun s =>
    s.sections.map fun (n, o) => (n, merged o s.defaults)

end IndexExplorer.Ini
