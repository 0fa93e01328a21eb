/-!
Finite doubles as exact numbers: taking one apart into a significand and a power of two, and the
double nearest to a ratio of natural numbers.

Nothing here rounds twice: `nearestBits` compares exact integers, so that reading a decimal and
rounding to places are right in the last bit.
-/
namespace IndexExplorer.Number

/-- The size of a finite double: `significand * 2 ^ exponent`. -/
structure Binary where
  significand : Nat
  exponent : Int
deriving Repr, DecidableEq

/-- The least exponent of a double. -/
def minExponent : Int := -1074

/-- The bits of infinity; those of every finite size are below. -/
def infinityBits : Nat := 0x7ff0000000000000

/-- The bit of the sign, `2 ^ 63`. -/
def signBit : Nat := 0x8000000000000000

/-- The bit in front of a fraction, `2 ^ 52`, which only the least doubles do not have. -/
def leadingBit : Nat := 0x10000000000000

/-- The size written in the 63 low bits, when it is finite. -/
def Binary.ofBits? (bits : Nat) : Option Binary :=
  if bits < infinityBits then
    let field : Nat := bits / leadingBit
    let fraction := bits % leadingBit
    if field = 0 then some ⟨fraction, minExponent⟩
    else some ⟨fraction + leadingBit, minExponent + (field - 1)⟩
  else none

/-- The sign bit, which zero has too. -/
def signed (x : Float) : Bool := signBit ≤ x.toBits.toNat

/-- The exact size of a finite double. -/
def size? (x : Float) : Option Binary := Binary.ofBits? (x.toBits.toNat % signBit)

/-- Neither infinite nor a NaN. -/
def isFinite (x : Float) : Bool := (size? x).isSome

/-- `n / d` rounded to an integer, a half going to the even neighbour. -/
def divNearestEven (n d : Nat) : Nat :=
  let q := n / d
  let r := n % d
  if 2 * r < d then q
  else if 2 * r > d then q + 1
  else if q % 2 = 0 then q else q + 1

/-- `n / d` as a fraction of `2 ^ e`, numerator and denominator. -/
def scaled (n d : Nat) (e : Int) : Nat × Nat :=
  if 0 ≤ e then (n, d * Nat.pow 2 e.toNat) else (n * Nat.pow 2 (-e).toNat, d)

/-- The bits of the double nearest to `n / d`, for a positive `d`: an even significand wins a
tie, and what is too large becomes infinity. -/
def nearestBits (n d : Nat) : Nat :=
  if n = 0 then 0
  else
    let guess : Int := (n.log2 : Int) - (d.log2 : Int)
    -- the power of two of the leading bit is the guess or one less
    let (a, b) := scaled n d guess
    let lead := if a < b then guess - 1 else guess
    let exponent := max (lead - 52) minExponent
    let (a, b) := scaled n d exponent
    min ((exponent - minExponent).toNat * leadingBit + divNearestEven a b) infinityBits

/-- The double nearest to `n / d`, with the given sign. -/
def nearest (negative : Bool) (n d : Nat) : Float :=
  Float.ofBits (UInt64.ofNat (nearestBits n d + if negative then signBit else 0))

/-- The double nearest to `digits * 10 ^ exponent`. Exponents that are certain to overflow or to
vanish are not raised to a power. -/
def ofDecimal (negative : Bool) (digits : Nat) (exponent : Int) : Float :=
  let places : Int := (digits.log2 : Int) * 30103 / 100000 + exponent
  if digits = 0 then nearest negative 0 1
  else if 310 < places then
    Float.ofBits (UInt64.ofNat (infinityBits + if negative then signBit else 0))
  else if places < -330 then nearest negative 0 1
  else if 0 ≤ exponent then nearest negative (digits * Nat.pow 10 exponent.toNat) 1
  else nearest negative digits (Nat.pow 10 (-exponent).toNat)

/-- The double nearest to an integer; infinite beyond the largest double. -/
def ofInt (n : Int) : Float := nearest (n < 0) n.natAbs 1

/-- A NaN. -/
def nan : Float := Float.ofBits 0x7ff8000000000000

/-- Positive or negative infinity. -/
def infinity (negative : Bool) : Float :=
  Float.ofBits (UInt64.ofNat (infinityBits + if negative then signBit else 0))

/-- The integer part of a finite double, toward zero. -/
def truncate? (x : Float) : Option Int :=
  (size? x).map fun b =>
    let whole : Nat := if 0 ≤ b.exponent then b.significand * Nat.pow 2 b.exponent.toNat
      else b.significand / Nat.pow 2 (-b.exponent).toNat
    if signed x then -(whole : Int) else whole

/-- A finite double without a fraction. -/
def isWhole (x : Float) : Bool :=
  match size? x with
  | some b => 0 ≤ b.exponent || b.significand % Nat.pow 2 (-b.exponent).toNat = 0
  | none => false

/-- The double rounded to `places` decimal places, exact ties going to the even digit. -/
def roundPlaces (x : Float) (places : Nat) : Float :=
  match size? x with
  | some b =>
    if 0 ≤ b.exponent then x
    else
      let units := divNearestEven (b.significand * Nat.pow 10 places)
        (Nat.pow 2 (-b.exponent).toNat)
      nearest (signed x) units (Nat.pow 10 places)
  | none => x

end IndexExplorer.Number
