import IndexExplorer.Text.Utf8

/-!
Decoding bytes as UTF-16 and UTF-32 when some places may be malformed.

* `length_units16_le`, `length_units32_le`: every place takes at least one byte.
-/
namespace IndexExplorer.Text

/-- Order of the bytes of a unit. -/
inductive ByteOrder where
  | big
  | little
deriving DecidableEq, Repr

namespace Wide

/-- A unit of two bytes. -/
def pair (order : ByteOrder) (a b : UInt8) : Nat :=
  match order with
  | .big => a.toNat * 256 + b.toNat
  | .little => b.toNat * 256 + a.toNat

/-- A unit of four bytes. -/
def quad (order : ByteOrder) (a b c d : UInt8) : Nat :=
  match order with
  | .big => pair .big a b * 65536 + pair .big c d
  | .little => pair .little c d * 65536 + pair .little a b

/-- A unit that begins a pair. -/
def isHigh (u : Nat) : Bool := 0xd800 ≤ u && u < 0xdc00

/-- A unit that ends a pair. -/
def isLow (u : Nat) : Bool := 0xdc00 ≤ u && u < 0xe000

/-- The character of a pair of units. -/
def joined (high low : Nat) : Char :=
  Char.ofNat (0x10000 + (high - 0xd800) * 0x400 + (low - 0xdc00))

/-- The characters of bytes in UTF-16, `none` for each malformed place: half of a pair, or bytes
left over at the end, together with the half of a pair in front of them. -/
def units16 (order : ByteOrder) : List UInt8 → List (Option Char)
  | [] => []
  | [_] => [none]
  | a :: b :: rest =>
    let u := pair order a b
    if isHigh u then
      match rest with
      | c :: d :: more =>
        if isLow (pair order c d) then some (joined u (pair order c d)) :: units16 order more
        else none :: units16 order (c :: d :: more)
      | _ => [none]
    else if isLow u then none :: units16 order rest
    else some (Char.ofNat u) :: units16 order rest

/-- The characters of bytes in UTF-32, `none` for each malformed place: a number that is none of a
character, or bytes left over at the end. -/
def units32 (order : ByteOrder) : List UInt8 → List (Option Char)
  | [] => []
  | a :: b :: c :: d :: rest =>
    let u := quad order a b c d
    (if u.isValidChar then some (Char.ofNat u) else none) :: units32 order rest
  | _ => [none]

theorem length_units16_le (order : ByteOrder) (bs : List UInt8) :
    (units16 order bs).length ≤ bs.length := by
  fun_induction units16 order bs <;> simp_all <;> omega

theorem length_units32_le (order : ByteOrder) (bs : List UInt8) :
    (units32 order bs).length ≤ bs.length := by
  fun_induction units32 order bs with
  | case1 => simp
  | case2 a b c d rest u ih => simp; omega
  | case3 bs h1 h2 =>
    cases bs with
    | nil => exact absurd rfl h1
    | cons => simp

end Wide

end IndexExplorer.Text
