import IndexExplorer.Problem
import IndexExplorer.Text.Blank
import IndexExplorer.Text.Lower
import IndexExplorer.Url.Ip

/-!
A URL as it is written, split into its parts without being changed.
-/
namespace IndexExplorer

/-- The parts of a URL. A part that is missing and one that is empty look the same. -/
structure UrlParts where
  scheme : String
  authority : String
  path : String
  query : String
  fragment : String
deriving DecidableEq, Repr

namespace UrlParts

/-- The text before the first place where `p` holds, and the rest from there. -/
def before (p : Char → Bool) (cs : List Char) : List Char × List Char :=
  (cs.takeWhile (!p ·), cs.dropWhile (!p ·))

theorem before_append (p : Char → Bool) (cs : List Char) :
    (before p cs).1 ++ (before p cs).2 = cs := List.takeWhile_append_dropWhile ..

/-- The text before the first separator and after it; all of it when there is none. -/
def cutAt (sep : Char) (cs : List Char) : List Char × List Char :=
  let (a, b) := before (· = sep) cs
  (a, b.drop 1)

/-- The text after the last separator, or all of it. -/
def afterLast (sep : Char) (cs : List Char) : List Char :=
  (cs.reverse.takeWhile (· ≠ sep)).reverse

/-- A character that schemes may have. -/
def isSchemeChar (c : Char) : Bool := c.isAlphanum || c = '+' || c = '-' || c = '.'

/-- The scheme in lower case and the text after its colon; no scheme when the text before the
first colon is none. -/
def takeScheme (cs : List Char) : List Char × List Char :=
  let (name, rest) := before (· = ':') cs
  match name, rest with
  | c :: _, _ :: after =>
    if c.isAlpha && name.all isSchemeChar then (name.map Char.toLower, after) else ([], cs)
  | _, _ => ([], cs)

/-- Characters that stand for one of the separators of a URL under compatibility equivalence. -/
def disguised : List Nat := [
  0x2047, 0x2048, 0x2049, 0x2100, 0x2101, 0x2105, 0x2106, 0x2a74, 0xfe13, 0xfe16, 0xfe55, 0xfe56,
  0xfe5f, 0xfe6b, 0xff03, 0xff0f, 0xff1a, 0xff1f, 0xff20]

/-- What is wrong with the host between brackets, if anything. -/
def bracketedHostFault (host : List Char) : Option String :=
  if host.head? = some 'v' then
    let digits := (host.drop 1).takeWhile Ip.isHex
    match (host.drop 1).dropWhile Ip.isHex with
    | '.' :: _ :: _ => if digits.isEmpty then some "IPvFuture address is invalid" else none
    | _ => some "IPvFuture address is invalid"
  else if Ip.isV4 host then some "An IPv4 address cannot be in brackets"
  else if Ip.isV6 host then none
  else
    some (Text.quoted (String.ofList host) ++ " does not appear to be an IPv4 or IPv6 address")

/-- What is wrong with the brackets of an authority, if anything: they come in pairs, with nothing
before them, only a port after them, and an address inside. -/
def bracketFault (authority : List Char) : Option String :=
  let opened := authority.contains '['
  let closed := authority.contains ']'
  if opened != closed then some "Invalid IPv6 URL"
  else if !opened then none
  else
    let hostPort := afterLast '@' authority
    let (front, bracketed) := before (· = '[') hostPort
    if bracketed.isEmpty then bracketedHostFault (cutAt ':' hostPort).1
    else if !front.isEmpty then some "Invalid IPv6 URL"
    else
      let (host, port) := cutAt ']' (bracketed.drop 1)
      if !port.isEmpty && port.head? != some ':' then some "Invalid IPv6 URL"
      else bracketedHostFault host

/-- What is wrong with an authority, if anything. -/
def authorityFault (authority : List Char) : Option String :=
  match bracketFault authority with
  | some fault => some fault
  | none =>
    if authority.any (disguised.contains ·.toNat) then
      some ("netloc '" ++ String.ofList authority ++
        "' contains invalid characters under NFKC normalization")
    else none

/-- The parts of a URL. Controls and spaces in front, and tabs and line ends anywhere, do not
count. -/
def split (url : String) : Result UrlParts :=
  let cs := (url.toList.dropWhile (·.toNat ≤ 0x20)).filter
    fun c => c ≠ '\t' && c ≠ '\r' && c ≠ '\n'
  let (scheme, rest) := takeScheme cs
  let (authority, rest) :=
    match rest with
    | '/' :: '/' :: after => before (fun c => c = '/' || c = '?' || c = '#') after
    | _ => ([], rest)
  match authorityFault authority with
  | some reason => .error (.badValue (.address reason))
  | none =>
    let (rest, fragment) := cutAt '#' rest
    let (path, query) := cutAt '?' rest
    .ok ⟨String.ofList scheme, String.ofList authority, String.ofList path, String.ofList query,
      String.ofList fragment⟩

/-- The host and the text of the port of an authority: without user and brackets. -/
def hostPort (p : UrlParts) : List Char × List Char :=
  let rest := afterLast '@' p.authority.toList
  let (_, bracketed) := before (· = '[') rest
  if bracketed.isEmpty then cutAt ':' rest
  else
    let (host, after) := cutAt ']' (bracketed.drop 1)
    (host, (cutAt ':' after).2)

/-- The host of an authority. -/
def host (p : UrlParts) : String := String.ofList p.hostPort.1

/-- The host in lower case, but for what stands behind a percent sign. -/
def lowerHost (p : UrlParts) : String :=
  let (name, zone) := before (· = '%') p.hostPort.1
  Text.lower (String.ofList name) ++ String.ofList zone

/-- The port of an authority, which has to be a number of sixteen bits. -/
def port? (p : UrlParts) : Result (Option Nat) :=
  let text := p.hostPort.2
  if text.isEmpty then .ok none
  else if !text.all Char.isDigit then
    .error (.badValue (.address ("Port could not be cast to integer value as " ++
      Text.quoted (String.ofList text))))
  else if 65535 < Number.ofDigits text then
    .error (.badValue (.address "Port out of range 0-65535"))
  else .ok (some (Number.ofDigits text))

end UrlParts

end IndexExplorer
