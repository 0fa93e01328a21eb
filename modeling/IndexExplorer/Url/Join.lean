import IndexExplorer.Url.Basic

/-!
A reference to a URL as it is seen from another URL: what is missing of it comes from there.
-/
namespace IndexExplorer

namespace UrlParts

/-- Schemes whose references take over what they lack. -/
def relativeSchemes : List String :=
  ["ftp", "http", "gopher", "nntp", "imap", "wais", "file", "https", "shttp", "mms", "prospero",
   "rtsp", "rtspu", "sftp", "svn", "svn+ssh", "ws", "wss"]

/-- Schemes whose URLs have an authority, even when it is empty. -/
def authoritySchemes : List String :=
  ["ftp", "http", "gopher", "nntp", "telnet", "imap", "wais", "file", "mms", "https", "shttp",
   "snews", "prospero", "rtsp", "rtspu", "rsync", "svn", "svn+ssh", "sftp", "nfs", "git",
   "git+ssh", "ws", "wss"]

/-- The text of the parts. A part that is empty leaves no mark. -/
def text (p : UrlParts) : String :=
  let bare := !p.path.startsWith "//"
  let place :=
    if !p.authority.isEmpty || (bare && authoritySchemes.contains p.scheme) then
      "//" ++ p.authority ++
        (if p.path.isEmpty || p.path.startsWith "/" then p.path else "/" ++ p.path)
    else p.path
  (if p.scheme.isEmpty then "" else p.scheme ++ ":") ++ place ++
    (if p.query.isEmpty then "" else "?" ++ p.query) ++
    (if p.fragment.isEmpty then "" else "#" ++ p.fragment)

/-- The path of a reference, seen from the path of its base: it begins where the last part of that
one does, and dot segments lead up from there. -/
def joinPath (base reference : List Char) : List Char :=
  let own := Ip.splitAt '/' reference
  let parts :=
    if reference.head? = some '/' then own
    else
      let above := Ip.splitAt '/' base
      let all := (if above.getLast? = some [] then above else above.dropLast) ++ own
      let inner := (all.drop 1).dropLast
      all.take 1 ++ inner.filter (!·.isEmpty) ++ (all.drop 1).drop (all.length - 2)
  let step := fun (out : List (List Char)) (part : List Char) =>
    if part = ['.', '.'] then out.dropLast
    else if part = ['.'] then out
    else out ++ [part]
  let last := parts.getLast?
  let kept := parts.foldl step [] ++
    if last = some ['.'] || last = some ['.', '.'] then [[]] else []
  let path := ['/'].intercalate kept
  if path.isEmpty then ['/'] else path

/-- A reference as it is seen from its base, both in parts; `none` when it stands for itself. -/
def join? (base reference : UrlParts) : Option UrlParts :=
  let scheme := if reference.scheme.isEmpty then base.scheme else reference.scheme
  if scheme ≠ base.scheme || !relativeSchemes.contains scheme then none
  else if !reference.authority.isEmpty then some { reference with scheme }
  else if reference.path.isEmpty then
    some {
      scheme
      authority := base.authority
      path := base.path
      query := if reference.query.isEmpty then base.query else reference.query
      fragment := reference.fragment }
  else
    some {
      scheme
      authority := base.authority
      path := String.ofList (joinPath base.path.toList reference.path.toList)
      query := reference.query
      fragment := reference.fragment }

end UrlParts

namespace Url

/-- The text of a reference, seen from a base. -/
def joinText (base reference : String) : Result String := do
  if base.isEmpty then return reference
  if reference.isEmpty then return base
  let above ← UrlParts.split base
  let below ← UrlParts.split reference
  return match UrlParts.join? above below with
    | some parts => parts.text
    | none => reference

/-- The URL that a reference stands for, seen from a base. -/
def join (base reference : Url) : Result Url := do
  match read (← joinText base.text reference.text) with
  | .ok u => return u
  | .error _ => throw .badUrl

end Url

end IndexExplorer
