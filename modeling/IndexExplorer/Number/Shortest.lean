import IndexExplorer.Number.Binary64

/-!
The fewest decimal digits that read back as a given double, and how they are written.

The reals that round to a double form an interval, which holds its ends when the significand is
even. For each count of digits the double's two neighbours on that decimal grid are tried: the
first grid with one inside the interval gives the digits, and of two the nearer is taken.
-/
namespace IndexExplorer.Number

/-- `digits * 10 ^ exponent`. -/
structure Decimal where
  digits : Nat
  exponent : Int
deriving Repr, DecidableEq

/-- A ratio of natural numbers. -/
structure Ratio where
  num : Nat
  den : Nat

namespace Ratio

def le (a b : Ratio) : Bool := a.num * b.den ≤ b.num * a.den
def lt (a b : Ratio) : Bool := a.num * b.den < b.num * a.den

/-- The size of a double. -/
def ofBinary (b : Binary) : Ratio :=
  let (n, d) := scaled b.significand 1 (-b.exponent)
  ⟨n, d⟩

/-- `n * 10 ^ e`. -/
def ofDecimal (n : Nat) (e : Int) : Ratio :=
  if 0 ≤ e then ⟨n * Nat.pow 10 e.toNat, 1⟩ else ⟨n, Nat.pow 10 (-e).toNat⟩

/-- The distance of two ratios. -/
def distance (a b : Ratio) : Ratio :=
  ⟨(a.num * b.den - b.num * a.den) + (b.num * a.den - a.num * b.den), a.den * b.den⟩

/-- How many whole units of `10 ^ e` fit. -/
def floorAt (a : Ratio) (e : Int) : Nat :=
  if 0 ≤ e then a.num / (a.den * Nat.pow 10 e.toNat) else a.num * Nat.pow 10 (-e).toNat / a.den

end Ratio

/-- The lower and upper ends of the reals that round to the double: halfway to its neighbours,
the lower one being nearer at a power of two. -/
def roundingEnds (b : Binary) : Ratio × Ratio :=
  let low :=
    if b.significand = leadingBit ∧ minExponent < b.exponent then
      Ratio.ofBinary ⟨4 * b.significand - 1, b.exponent - 2⟩
    else Ratio.ofBinary ⟨2 * b.significand - 1, b.exponent - 1⟩
  (low, Ratio.ofBinary ⟨2 * b.significand + 1, b.exponent - 1⟩)

/-- A decimal that reads back as the double. -/
def readsBack (b : Binary) (r : Ratio) : Bool :=
  let (low, high) := roundingEnds b
  if b.significand % 2 = 0 then low.le r && r.le high else low.lt r && r.lt high

/-- The decimal exponent of the leading digit of a positive ratio, near `2 ^ lead`. -/
def leadingPlace (r : Ratio) (lead : Int) : Int :=
  let guess := lead * 30103 / 100000
  if (Ratio.ofDecimal 1 (guess + 1)).le r then guess + 1 else guess

/-- The better of the two neighbours on the grid of `10 ^ e`, when one reads back. -/
def onGrid (b : Binary) (e : Int) : Option Nat :=
  let value := Ratio.ofBinary b
  let below := value.floorAt e
  let down := Ratio.ofDecimal below e
  let up := Ratio.ofDecimal (below + 1) e
  match 0 < below && readsBack b down, readsBack b up with
  | true, false => some below
  | false, true => some (below + 1)
  | false, false => none
  | true, true =>
    let toDown := value.distance down
    let toUp := value.distance up
    if toDown.lt toUp then some below
    else if toUp.lt toDown then some (below + 1)
    else if below % 2 = 0 then some below else some (below + 1)

/-- Tries ever finer grids; seventeen digits always suffice. -/
def searchGrids (b : Binary) (place : Int) : Nat → Nat → Decimal
  | 0, count => ⟨(Ratio.ofBinary b).floorAt (place - count), place - count⟩
  | fuel + 1, count =>
    match onGrid b (place - count) with
    | some n => ⟨n, place - count⟩
    | none => searchGrids b place fuel (count + 1)

/-- The shortest decimal that reads back as a positive double. -/
def shortest (b : Binary) : Decimal :=
  let lead : Int := b.significand.log2 + b.exponent
  searchGrids b (leadingPlace (Ratio.ofBinary b) lead) 17 0

/-- How digits are laid out: where positional notation begins and ends, and the texts of what has
no digits. -/
structure FloatStyle where
  /-- the decimal exponents of the leading digit that are written positionally -/
  leastPositional : Int
  endPositional : Int
  /-- the least number of digits of an exponent -/
  exponentWidth : Nat
  infinite : String
  notANumber : String

/-- The digits of a number, at least `width` of them. -/
def padded (width n : Nat) : List Char :=
  let ds := Nat.toDigits 10 n
  List.replicate (width - ds.length) '0' ++ ds

/-- Digits with the point after `place + 1` of them, or before them when the place is negative;
there is always a digit on both sides. -/
def positional (ds : List Char) (place : Int) : List Char :=
  if place < 0 then '0' :: '.' :: (List.replicate (-place - 1).toNat '0' ++ ds)
  else
    let before := place.toNat + 1
    let whole := ds.take before ++ List.replicate (before - ds.length) '0'
    whole ++ '.' :: (if ds.length ≤ before then ['0'] else ds.drop before)

/-- One digit, the point and the rest, and the exponent of ten with its sign. -/
def scientific (width : Nat) (ds : List Char) (place : Int) : List Char :=
  let tail := ds.drop 1
  ds.take 1 ++ (if tail.isEmpty then [] else '.' :: tail) ++
    ['e', if place < 0 then '-' else '+'] ++ padded width place.natAbs

/-- The digits of the decimal without trailing zeros, and the place of the first. -/
def Decimal.significant (d : Decimal) : List Char × Int :=
  let ds := Nat.toDigits 10 d.digits
  let kept := (ds.reverse.dropWhile (· == '0')).reverse
  (if kept.isEmpty then ['0'] else kept, d.exponent + (ds.length - 1))

/-- The text of a double in a style. -/
def FloatStyle.write (style : FloatStyle) (x : Float) : String :=
  let sign := if signed x then ['-'] else []
  match size? x with
  | none => if x.isNaN then style.notANumber else String.ofList sign ++ style.infinite
  | some b =>
    if b.significand = 0 then String.ofList (sign ++ ['0', '.', '0'])
    else
      let (ds, place) := (shortest b).significant
      String.ofList (sign ++
        if style.leastPositional ≤ place ∧ place < style.endPositional then positional ds place
        else scientific style.exponentWidth ds place)

/-- Positional from a ten-thousandth to below ten to the sixteenth, two exponent digits. -/
def plainStyle : FloatStyle := ⟨-4, 16, 2, "inf", "nan"⟩

/-- As the plain style, with the names that documents use for what is not finite. -/
def documentStyle : FloatStyle := { plainStyle with infinite := "Infinity", notANumber := "NaN" }

/-- The text of a double: its shortest digits. -/
def floatText (x : Float) : String := plainStyle.write x

end IndexExplorer.Number
