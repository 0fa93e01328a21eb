import IndexExplorer.Number.Read
import IndexExplorer.Text.Percent
import IndexExplorer.Url.Parts

/-!
The URL of a request, in normal form: scheme and host in lower case, no default port, no dot
segments, and every character that a part may not hold percent-encoded.
-/
namespace IndexExplorer

/-- Why a text is no URL. -/
inductive UrlFault where
  | tooLong
  | control (c : Char) (position : Nat)
  | badV4 (host : String)
  | badV6 (host : String)
  | badName (host : String)
  | badPort (text : String)
  | unrooted
  | doubleSlash
  | leadingColon
deriving DecidableEq, Repr

/-- What is said about a text that is no URL. -/
def UrlFault.message : UrlFault → String
  | .tooLong => "URL too long"
  | .control c position =>
    "Invalid non-printable ASCII character in URL, " ++ Text.quoted (String.ofList [c]) ++
      " at position " ++ toString position ++ "."
  | .badV4 host => "Invalid IPv4 address: " ++ Text.quoted host
  | .badV6 host => "Invalid IPv6 address: " ++ Text.quoted host
  | .badName host => "Invalid IDNA hostname: " ++ Text.quoted host
  | .badPort text => "Invalid port: " ++ Text.quoted text
  | .unrooted => "For absolute URLs, path must be empty or begin with '/'"
  | .doubleSlash => "Relative URLs cannot have a path starting with '//'"
  | .leadingColon => "Relative URLs cannot have a path starting with ':'"

/-- A URL in normal form. A missing query and an empty one differ; `host` has no brackets. -/
structure Url where
  scheme : String
  userInfo : String
  host : String
  port : Option Int
  path : String
  query : Option String
  fragment : Option String
deriving DecidableEq, Repr

namespace Url

open Text

/-- Printable ASCII without the given characters. -/
def printableBut (out : List Char) (c : Char) : Bool :=
  0x20 ≤ c.toNat && c.toNat < 0x7f && !out.contains c

/-- What a path may hold unencoded. -/
def inPath : Char → Bool := printableBut [' ', '"', '#', '<', '>', '?', '\x60', '\x7b', '\x7d']

/-- What a query may hold unencoded. -/
def inQuery : Char → Bool := printableBut [' ', '"', '#', '<', '>']

/-- What a fragment may hold unencoded. -/
def inFragment : Char → Bool := printableBut [' ', '"', '<', '>', '\x60']

/-- What the user information may hold unencoded. -/
def inUserInfo : Char → Bool :=
  printableBut [' ', '"', '#', '<', '>', '?', '\x60', '\x7b', '\x7d', '/', ';', '=', '@', '[', '\\',
    ']', '^', '|']

/-- What a host name may hold unencoded. -/
def inHost (c : Char) : Bool :=
  Percent.isUnreserved c || ['!', '$', '&', '\'', '(', ')', '*', '+', ',', ';', '=', '"', '\x60',
    '\x7b', '\x7d', '%', '|', '\\'].contains c

/-- The longest text that is taken for a URL. -/
def lengthLimit : Nat := 65536

/-- An ASCII control character, which no URL has. -/
def isControl (c : Char) : Bool := c.toNat < 0x20 || c.toNat = 0x7f

/-- The scheme as written and the text after its colon, if there is one. The scheme may be
empty. -/
def takeScheme (cs : List Char) : List Char × List Char :=
  let (name, rest) := UrlParts.before (fun c => !UrlParts.isSchemeChar c) cs
  match rest with
  | ':' :: after =>
    match name with
    | [] => ([], after)
    | c :: _ => if c.isAlpha then (name, after) else ([], cs)
  | _ => ([], cs)

/-- A part behind its mark, up to where `stop` holds; `none` without the mark. -/
def takeMarked (mark : Char) (stop : Char → Bool) (cs : List Char) :
    Option (List Char) × List Char :=
  match cs with
  | c :: rest =>
    if c = mark then
      let (part, rest) := UrlParts.before stop rest
      (some part, rest)
    else (none, cs)
  | [] => (none, [])

/-- The user information and the rest of an authority; the last at sign divides them. -/
def takeUserInfo (cs : List Char) : List Char × List Char :=
  let rest := UrlParts.afterLast '@' cs
  (cs.take (cs.length - rest.length - 1), rest)

/-- The host and the rest: up to the last closing bracket if it begins with a bracket, else up to
the first colon. -/
def takeHost (cs : List Char) : List Char × List Char :=
  let inBrackets := cs.take (cs.length - (UrlParts.afterLast ']' cs).length)
  if cs.head? = some '[' && cs.contains ']' then (inBrackets, cs.drop inBrackets.length)
  else UrlParts.before (fun c => c = ':' || c = '@') cs

/-- Four runs of digits with points between them. -/
def isFourNumbers (cs : List Char) : Bool :=
  let parts := Ip.splitAt '.' cs
  parts.length = 4 && parts.all fun part => !part.isEmpty && part.all Char.isDigit

/-- The host in normal form: a name in ASCII, or an address. -/
def hostOf (cs : List Char) : Except UrlFault String :=
  if cs.isEmpty then .ok ""
  else if isFourNumbers cs then
    if Ip.isV4 cs then .ok (String.ofList cs) else .error (.badV4 (String.ofList cs))
  else if cs.head? = some '[' && 1 < cs.length && cs.getLast? = some ']' then
    let inner := (cs.drop 1).dropLast
    if Ip.isV6 inner then .ok (String.ofList inner) else .error (.badV6 (String.ofList cs))
  else if cs.all (·.toNat < 0x80) then
    .ok (Percent.encode inHost (String.ofList (cs.map Char.toLower)))
  else .error (.badName (String.ofList cs))

/-- The port that a scheme stands for. -/
def defaultPort? (scheme : String) : Option Int :=
  [("ftp", 21), ("http", 80), ("https", 443), ("ws", 80), ("wss", 443)].lookup scheme

/-- The port, unless it is the default of the scheme as written. -/
def portOf (scheme : String) (cs : List Char) : Except UrlFault (Option Int) :=
  if cs.isEmpty then .ok none
  else match Number.readInt (String.ofList cs) with
    | .ok n => .ok (if defaultPort? scheme = some n then none else some n)
    | .error _ => .error (.badPort (String.ofList cs))

/-- The parts of a path without dot segments; two dots take back the part before. -/
def dropDots (out : List (List Char)) : List (List Char) → List (List Char)
  | [] => out
  | part :: rest =>
    if part = ['.'] then dropDots out rest
    else if part = ['.', '.'] then
      dropDots (if out = [] ∨ out = [[]] then out else out.dropLast) rest
    else dropDots (out ++ [part]) rest

/-- A path without dot segments. -/
def normalPath (cs : List Char) : List Char :=
  let parts := Ip.splitAt '/' cs
  if parts.contains ['.'] || parts.contains ['.', '.'] then
    ['/'].intercalate (dropDots [] parts)
  else cs

/-- Why a path cannot stand where it does, if it cannot: after an authority it has to be rooted, and
without scheme and authority it may not be mistaken for either. -/
def pathFault? (scheme authority : Bool) (path : List Char) : Option UrlFault :=
  if authority then if path.isEmpty || path.head? = some '/' then none else some .unrooted
  else if scheme then none
  else if ['/', '/'].isPrefixOf path then some .doubleSlash
  else if path.head? = some ':' then some .leadingColon
  else none

/-- Why a text as a whole cannot be a URL, if it cannot. -/
def textFault? (cs : List Char) : Option UrlFault :=
  if lengthLimit < cs.length then some .tooLong
  else
    match cs.dropWhile (!isControl ·) with
    | c :: rest => some (.control c (cs.length - rest.length - 1))
    | [] => none

/-- The URL that a text spells. -/
def read (text : String) : Except UrlFault Url := do
  let cs := text.toList
  if let some fault := textFault? cs then throw fault
  let (scheme, rest) := takeScheme cs
  let (authority, rest) :=
    match rest with
    | '/' :: '/' :: after => UrlParts.before (fun c => c = '/' || c = '?' || c = '#') after
    | _ => ([], rest)
  let (path, rest) := UrlParts.before (fun c => c = '?' || c = '#') rest
  let (query, rest) := takeMarked '?' (· = '#') rest
  let (fragment, _) := takeMarked '#' (fun _ => false) rest
  let (user, rest) := takeUserInfo authority
  let (hostText, rest) := takeHost rest
  let user := Percent.encode inUserInfo (String.ofList user)
  let host ← hostOf hostText
  let port ← portOf (String.ofList scheme) (if rest.head? = some ':' then rest.drop 1 else rest)
  let hasScheme := !scheme.isEmpty
  let hasAuthority := !user.isEmpty || !host.isEmpty || port.isSome
  if let some fault := pathFault? hasScheme hasAuthority path then throw fault
  return {
    scheme := String.ofList (scheme.map Char.toLower)
    userInfo := user
    host
    port
    path := Percent.encode inPath
      (String.ofList (if hasScheme || hasAuthority then normalPath path else path))
    query := query.map fun q => Percent.encode inQuery (String.ofList q)
    fragment := fragment.map fun f => Percent.encode inFragment (String.ofList f) }

/-- There is a user, a host or a port. -/
def hasAuthority (u : Url) : Bool := !u.userInfo.isEmpty || !u.host.isEmpty || u.port.isSome

/-- The URL on another host. -/
def withHost (u : Url) (host : String) : Except UrlFault Url :=
  let moved := { u with host }
  match pathFault? (!u.scheme.isEmpty) moved.hasAuthority u.path.toList with
  | some fault => .error fault
  | none => .ok moved

/-- Host and port, as the header of a request names them; addresses with colons in brackets. -/
def hostPort (u : Url) : String :=
  (if u.host.toList.contains ':' then "[" ++ u.host ++ "]" else u.host) ++
    match u.port with
    | some p => ":" ++ toString p
    | none => ""

/-- The text of the URL. -/
def text (u : Url) : String :=
  let authority := (if u.userInfo.isEmpty then "" else u.userInfo ++ "@") ++ u.hostPort
  (if u.scheme.isEmpty then "" else u.scheme ++ ":") ++
    (if authority.isEmpty then "" else "//" ++ authority) ++ u.path ++
    (match u.query with | some q => "?" ++ q | none => "") ++
    (match u.fragment with | some f => "#" ++ f | none => "")

/-- The user's name and password, decoded. -/
def credentials (u : Url) : String × String :=
  let (name, password) := UrlParts.cutAt ':' u.userInfo.toList
  (Percent.decode (String.ofList name), Percent.decode (String.ofList password))

/-- The fragment, decoded; empty when there is none. -/
def place (u : Url) : String := Percent.decode (u.fragment.getD "")

end Url

end IndexExplorer
