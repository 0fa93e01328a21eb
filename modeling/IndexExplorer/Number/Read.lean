import IndexExplorer.Number.Binary64
import IndexExplorer.Text.Blank
import IndexExplorer.Text.Digit

/-!
Reading integers and doubles from text that a person typed: blanks around the number, digits of
any script and single underscores between digits are allowed.
-/
namespace IndexExplorer.Number

open IndexExplorer.Text

/-- The value of ASCII digits, the first being the most significant. -/
def ofDigits (ds : List Char) : Nat := ds.foldl (fun n c => n * 10 + (c.toNat - 48)) 0

/-- The longest decimal text that is turned into an integer. -/
def digitLimit : Nat := 4300

/-- Why a text is no integer. -/
inductive IntFault where
  | malformed
  | tooLong (digits : Nat)
deriving DecidableEq, Repr

/-- Blanks of ASCII that may surround a number. -/
def isSpace (c : Char) : Bool :=
  c = ' ' || (0x09 ≤ c.toNat && c.toNat ≤ 0x0d)

/-- Digits and blanks of any script in their ASCII form; `none` stands for any other character
outside of ASCII. A text in ASCII alone is taken as it is. -/
def plainChars (cs : List Char) : List Char :=
  cs.map fun c =>
    if c.toNat < 0x7f then c
    else if isBlank c then ' '
    else match digitValue? c with
      | some d => Char.ofNat (48 + d)
      | none => '?'

/-- The sign in front of a number: whether it is negative, and what follows. -/
def splitSign : List Char → Bool × List Char
  | '-' :: cs => (true, cs)
  | '+' :: cs => (false, cs)
  | cs => (false, cs)

/-- Digits with single underscores between them: the digits alone, and what follows the run.
`none` when an underscore is doubled or last. -/
def digitRun : List Char → Bool → Option (List Char × List Char)
  | [], afterMark => if afterMark then none else some ([], [])
  | c :: cs, afterMark =>
    if c = '_' then if afterMark then none else digitRun cs true
    else if c.isDigit then (digitRun cs false).map fun (ds, rest) => (c :: ds, rest)
    else if afterMark then none
    else some ([], c :: cs)

/-- The integer that a text spells. -/
def readInt (s : String) : Except IntFault Int :=
  let (negative, cs) := splitSign ((plainChars s.toList).dropWhile isSpace)
  match cs.head? with
  | some '_' => .error .malformed
  | _ =>
    match digitRun cs false with
    | none => .error .malformed
    | some (ds, rest) =>
      if digitLimit < ds.length then .error (.tooLong ds.length)
      else if ds.isEmpty || !rest.all isSpace then .error .malformed
      else
        let n : Int := ofDigits ds
        .ok (if negative then -n else n)

/-- The parts of a decimal numeral: digits before and after the point, and the exponent. -/
structure Numeral where
  whole : List Char
  fraction : List Char
  exponent : Int

/-- The numeral at the beginning of `cs` and what follows it; there has to be a digit before or
after the point. -/
def takeNumeral (cs : List Char) : Option (Numeral × List Char) :=
  let whole := cs.takeWhile Char.isDigit
  let rest := cs.dropWhile Char.isDigit
  let (fraction, rest) :=
    match rest with
    | '.' :: after => (after.takeWhile Char.isDigit, after.dropWhile Char.isDigit)
    | _ => ([], rest)
  if whole.isEmpty && fraction.isEmpty then none
  else
    match rest with
    | e :: after =>
      if e = 'e' || e = 'E' then
        let (negative, ds) := splitSign after
        let digits := ds.takeWhile Char.isDigit
        if digits.isEmpty then some (⟨whole, fraction, 0⟩, rest)
        else
          let n : Int := ofDigits digits
          some (⟨whole, fraction, if negative then -n else n⟩, ds.dropWhile Char.isDigit)
      else some (⟨whole, fraction, 0⟩, rest)
    | [] => some (⟨whole, fraction, 0⟩, [])

/-- The double nearest to a numeral. -/
def Numeral.toFloat (n : Numeral) (negative : Bool) : Float :=
  ofDecimal negative (ofDigits (n.whole ++ n.fraction)) (n.exponent - n.fraction.length)

/-- The double that the whole text spells: a numeral, or a name of infinity or of a NaN in any
letter case, with an optional sign. -/
def parseFloat? (cs : List Char) : Option Float :=
  let (negative, cs) := splitSign cs
  let name := String.ofList (cs.map Char.toLower)
  if name = "inf" || name = "infinity" then some (infinity negative)
  else if name = "nan" then some nan
  else
    match takeNumeral cs with
    | some (n, []) => some (n.toFloat negative)
    | _ => none

/-- The text without underscores when each stands between two digits. -/
def dropMarks : Option Char → List Char → Option (List Char)
  | _, [] => some []
  | before, c :: cs =>
    if c = '_' then
      match before, cs with
      | some b, next :: _ => if b.isDigit && next.isDigit then dropMarks (some c) cs else none
      | _, _ => none
    else (dropMarks (some c) cs).map (c :: ·)

/-- The double that a text spells. -/
def readFloat? (s : String) : Option Float :=
  (dropMarks none (trimWhile isSpace (plainChars s.toList))).bind parseFloat?

end IndexExplorer.Number
