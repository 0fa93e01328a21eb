import IndexExplorer.Named
import IndexExplorer.Text.Blank
import IndexExplorer.Text.Case
import IndexExplorer.Text.Percent

/-!
The parameters of a header value, as mail writes them: `name=value` behind semicolons.

A value may be in quotes. It may also be cut into parts with numbers, `name*0`, `name*1` and so
on. A part whose name ends with a star is percent-encoded, and then the whole value may begin with
its character set and language, each with an apostrophe behind it.

* `unquoted_quoted`: a value in quotes without quotes and backslashes inside is what is between
  them.
-/
namespace IndexExplorer.Text.Parameter

/-- What stands behind the name of a parameter. -/
inductive Value where
  | plain (text : String)
  /-- characters that stand for bytes, and the name of their character set, if it is told -/
  | coded (charset : Option String) (bytes : List Char)
deriving DecidableEq, Repr

/-- The parts of a header between semicolons, of which those in quotes do not count. A quote behind
a backslash is none. -/
def sections (quoted escaped : Bool) : List Char → List (List Char)
  | [] => [[]]
  | c :: cs =>
    if c = ';' && !quoted then [] :: sections false false cs
    else match sections (quoted != (c = '"' && !escaped)) (c = '\\') cs with
      | part :: parts => (c :: part) :: parts
      | [] => [[c]]

/-- A part as name and value, trimmed. The name is in lower case when there is a value. -/
def entry (part : List Char) : List Char × List Char :=
  let name := trimWhile isBlank (part.takeWhile (· ≠ '='))
  match part.dropWhile (· ≠ '=') with
  | [] => (name, [])
  | _ :: value => (name.map Char.toLower, trimWhile isBlank value)

/-- Two backslashes made one. -/
def mergeBackslashes : List Char → List Char
  | '\\' :: '\\' :: cs => '\\' :: mergeBackslashes cs
  | c :: cs => c :: mergeBackslashes cs
  | [] => []

/-- Quotes without the backslash in front of each. -/
def freeQuotes : List Char → List Char
  | '\\' :: '"' :: cs => '"' :: freeQuotes cs
  | c :: cs => c :: freeQuotes cs
  | [] => []

/-- A value without the quotes or the angle brackets around it. -/
def unquoted (cs : List Char) : List Char :=
  let inner := (cs.drop 1).dropLast
  if cs.length ≤ 1 then cs
  else if cs.head? = some '"' && cs.getLast? = some '"' then freeQuotes (mergeBackslashes inner)
  else if cs.head? = some '<' && cs.getLast? = some '>' then inner
  else cs

/-- A character of the name of a parameter that is cut into parts. -/
def isWordChar (c : Char) : Bool := c.isAlphanum || c = '_'

/-- A part of a value: its number, if it has one, its text, and whether that is percent-encoded. -/
structure Piece where
  number : Option Nat
  text : List Char
  encoded : Bool
deriving DecidableEq, Repr

/-- The name and number in front of and behind a star. -/
def pieceName? (name : List Char) : Option (String × Option Nat) :=
  let word := name.takeWhile isWordChar
  match name.dropWhile isWordChar with
  | '*' :: rest =>
    let digits := rest.takeWhile Char.isDigit
    let after := rest.dropWhile Char.isDigit
    if word.isEmpty then none
    else if rest.isEmpty then some (String.ofList word, none)
    else if digits.isEmpty || (after ≠ [] && after ≠ ['*']) then none
    else
      some (String.ofList word, some (digits.foldl (fun n c => n * 10 + (c.toNat - 48)) 0))
  | _ => none

/-- The order of pieces: by number, then by text. -/
def Piece.le (a b : Piece) : Bool :=
  let x := a.number.getD 0
  let y := b.number.getD 0
  x < y || (x = y && (a.text < b.text || (a.text = b.text && (!a.encoded || b.encoded))))

/-- The pieces by the names of their parameters. -/
def pieces (entries : List (List Char × List Char)) : Named (List Piece) :=
  entries.foldl (fun groups (name, value) =>
    match pieceName? name with
    | some (word, number) =>
      groups.alter word fun before =>
        before.getD [] ++ [⟨number, unquoted value, name.getLast? = some '*'⟩]
    | none => groups) []

/-- Some pieces of one value have numbers and some have none, so that they are in no order. -/
def isMixed (ps : List Piece) : Bool := ps.any (·.number.isSome) && ps.any (·.number.isNone)

/-- The text of a piece, decoded to characters that stand for bytes. -/
def Piece.decoded (p : Piece) : List Char :=
  if p.encoded then (Percent.bytesOf p.text).map fun b => Char.ofNat b.toNat else p.text

/-- The character set, behind which there is an apostrophe, and the text behind the next one. -/
def prefixed? (cs : List Char) : Option (List Char × List Char) :=
  match cs.dropWhile (· ≠ '\'') with
  | [] => none
  | _ :: rest =>
    match rest.dropWhile (· ≠ '\'') with
    | [] => none
    | _ :: text => some (cs.takeWhile (· ≠ '\''), text)

/-- A text with a backslash in front of each quote and backslash. -/
def escaped (cs : List Char) : List Char :=
  cs.flatMap fun c => if c = '"' || c = '\\' then ['\\', c] else [c]

/-- The value that pieces make up. -/
def joined (ps : List Piece) : Value :=
  let whole := (ps.mergeSort Piece.le).flatMap Piece.decoded
  if ps.any (·.encoded) then
    match prefixed? whole with
    | some (charset, text) => .coded (some (String.ofList (escaped charset))) text
    | none => .coded none whole
  else .plain (String.ofList whole)

/-- The value of a parameter, if it is there. A value in one piece counts before one in several.
What stands first in a header is never a piece. `none` is for pieces in no order. -/
def value? (name : String) (header : String) : Option (Option Value) :=
  let entries := (sections false false header.toList).map entry
  let groups := pieces (entries.drop 1)
  let isName := fun (n : String) => lowerAscii n = name
  if groups.any fun g => isMixed g.2 then none
  else
    let whole := entries.take 1 ++ (entries.drop 1).filter fun e => (pieceName? e.1).isNone
    match whole.find? fun e => isName (String.ofList e.1) with
    | some (_, value) => some (some (.plain (String.ofList (unquoted value))))
    | none => some ((groups.find? fun g => isName g.1).map fun g => joined g.2)

theorem mergeBackslashes_eq_self {cs : List Char} (h : '\\' ∉ cs) : mergeBackslashes cs = cs := by
  induction cs with
  | nil => rfl
  | cons c cs ih =>
    have hc : c ≠ '\\' := fun e => h (by simp [e])
    have ht : '\\' ∉ cs := fun m => h (by simp [m])
    unfold mergeBackslashes
    split
    · exact absurd (by simp_all) hc
    · simp_all
    · simp_all

theorem freeQuotes_eq_self {cs : List Char} (h : '\\' ∉ cs) : freeQuotes cs = cs := by
  induction cs with
  | nil => rfl
  | cons c cs ih =>
    have hc : c ≠ '\\' := fun e => h (by simp [e])
    have ht : '\\' ∉ cs := fun m => h (by simp [m])
    unfold freeQuotes
    split
    · exact absurd (by simp_all) hc
    · simp_all
    · simp_all

/-- A value in quotes without backslashes inside is what is between the quotes. -/
theorem unquoted_quoted {cs : List Char} (h : '\\' ∉ cs) : unquoted ('"' :: cs ++ ['"']) = cs := by
  have last : ('"' :: cs ++ ['"']).getLast? = some '"' := List.getLast?_concat
  simp only [unquoted, last]
  simp [mergeBackslashes_eq_self h, freeQuotes_eq_self h]

end IndexExplorer.Text.Parameter
