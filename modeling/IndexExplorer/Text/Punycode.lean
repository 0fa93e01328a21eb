import IndexExplorer.Text.Ascii

/-!
Decoding Punycode: the characters of ASCII of a text, a hyphen, and digits to the base 36 that tell
where the other characters are, in the order of their numbers.

* `threshold_mem`: a threshold is from 1 to 26, so that each number has a last digit.
-/
namespace IndexExplorer.Text.Punycode

/-- The value of a digit: letters of either case, and then the digits of ten. -/
def digit? (b : Nat) : Option Nat :=
  if 'A'.toNat ≤ b ∧ b ≤ 'Z'.toNat then some (b - 'A'.toNat)
  else if 'a'.toNat ≤ b ∧ b ≤ 'z'.toNat then some (b - 'a'.toNat)
  else if '0'.toNat ≤ b ∧ b ≤ '9'.toNat then some (b - '0'.toNat + 26)
  else none

/-- The `j`th digit of a number is its last one if it is below this. -/
def threshold (bias j : Nat) : Nat := min 26 (max 1 (36 * (j + 1) - bias))

theorem threshold_mem (bias j : Nat) : 1 ≤ threshold bias j ∧ threshold bias j ≤ 26 := by
  unfold threshold
  omega

/-- Reads a number of variable length, and what is behind it. Its `j`th digit has the weight
given, and `sum` is what the digits before make up. -/
def number? (bias : Nat) : (j weight sum : Nat) → List Nat → Option (Nat × List Nat)
  | _, _, _, [] => none
  | j, weight, sum, b :: rest =>
    match digit? b with
    | none => none
    | some d =>
      let sum := sum + d * weight
      if d < threshold bias j then some (sum, rest)
      else number? bias (j + 1) (weight * (36 - threshold bias j)) sum rest

theorem length_lt_of_number?_eq_some {bias j weight sum n : Nat} {bytes rest : List Nat}
    (h : number? bias j weight sum bytes = some (n, rest)) : rest.length < bytes.length := by
  fun_induction number? bias j weight sum bytes with
  | case1 => cases h
  | case2 => cases h
  | case3 j weight sum b bs d hd total hlt =>
    simp only [Option.some.injEq, Prod.mk.injEq] at h
    simp [h.2]
  | case4 j weight sum b bs d hd total hlt ih =>
    have := ih h
    simp only [List.length_cons]
    omega

/-- Divides by 35 until at most 455 is left, and adds 36 to `steps` each time. -/
def scaled (steps delta : Nat) : Nat :=
  if 455 < delta then scaled (steps + 36) (delta / 35) else steps + 36 * delta / (delta + 38)
termination_by delta
decreasing_by omega

/-- The bias after a number, by how many characters there are then. -/
def adapted (delta count : Nat) (isFirst : Bool) : Nat :=
  let delta := delta / if isFirst then 700 else 2
  scaled 0 (delta + delta / count)

/-- A text in the making, and whether all of its digits were understood. -/
structure Decoded where
  units : List (Option Char)
  whole : Bool
deriving DecidableEq, Repr

/-- The character of a number, unless it is half of a pair. -/
def char? (n : Nat) : Option Char := if n.isValidChar then some (Char.ofNat n) else none

/-- Puts in the characters that the digits tell. `point` and `place` are those of the last one put
in; a number beyond the last character counts as a question mark. Where digits are not understood,
the text is left as it is. -/
def insertAll (units : List (Option Char)) (point place bias : Nat) (isFirst : Bool)
    (bytes : List Nat) : Decoded :=
  if bytes = [] then ⟨units, true⟩
  else
    match h : number? bias 0 1 0 bytes with
    | none => ⟨units, false⟩
    | some (delta, rest) =>
      let count := units.length + 1
      let point := point + (place + delta) / count
      let place := (place + delta) % count
      let known := point ≤ 0x10ffff
      let point := if known then point else '?'.toNat
      let decoded := insertAll (units.take place ++ char? point :: units.drop place) point
        (place + 1) (adapted delta count isFirst) false rest
      { decoded with whole := decoded.whole && known }
termination_by bytes.length
decreasing_by exact length_lt_of_number?_eq_some h

/-- The bytes in front of the last hyphen and those behind it; without one all are behind. -/
def parts (bytes : List Nat) : List Nat × List Nat :=
  let behind := (bytes.reverse.takeWhile (· ≠ '-'.toNat)).reverse
  (bytes.take (bytes.length - behind.length - 1), behind)

/-- The text of bytes. -/
def decode (bytes : List Nat) : Decoded :=
  let (base, digits) := parts bytes
  let base := base.map fun b => if b < 0x80 then some (Char.ofNat b) else none
  insertAll base 0x80 0 72 true digits

/-- The first byte among the digits that is none of ASCII, and its place. -/
def foreign? (bytes : List Nat) : Option (Nat × Nat) :=
  (parts bytes).2.zipIdx.find? fun (b, _) => 0x80 ≤ b

end IndexExplorer.Text.Punycode
