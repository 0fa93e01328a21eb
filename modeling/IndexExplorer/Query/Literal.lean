import IndexExplorer.Problem

/-!
The value of a field condition: a number when the whole text is one, else the text.
-/
namespace IndexExplorer

open Number Text

/-- What a condition compares with. -/
inductive Literal where
  | text (s : String)
  | whole (n : Int)
  | real (x : Float)

namespace Literal

/-- The literal as a JSON value. -/
def toJson : Literal → Json
  | .text s => .str s
  | .whole n => .int n
  | .real x => .float x

/-- Decimal digits of any script in their ASCII form; all else is kept. -/
def asciiDigits (cs : List Char) : List Char :=
  cs.map fun c =>
    match digitValue? c with
    | some d => Char.ofNat (48 + d)
    | none => c

/-- A point or an exponent mark, which integers do not have. -/
def hasFractionMark (cs : List Char) : Bool := cs.any fun c => c = '.' || c = 'e' || c = 'E'

/-- The literal that a text stands for, blanks around a number aside. A number too large for a
double stays text; only an integer of too many digits is refused. -/
def ofText (s : String) : Result Literal :=
  let (negative, cs) := splitSign (asciiDigits (trim s).toList)
  match takeNumeral cs with
  | some (n, []) =>
    if hasFractionMark cs then
      let x := n.toFloat negative
      .ok (if isFinite x then .real x else .text s)
    else if digitLimit < n.whole.length then .error (.badValue (.tooManyDigits n.whole.length))
    else
      let value : Int := ofDigits n.whole
      .ok (.whole (if negative then -value else value))
  | _ => .ok (.text s)

end Literal

end IndexExplorer
