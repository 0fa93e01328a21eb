import IndexExplorer.Text.Wide

/-!
Decoding bytes as UTF-7 when some of them may be malformed.

The decoder is a machine that takes a byte at a time. Outside of ASCII characters stand as units of
UTF-16 in digits to the base 64 between a plus sign and a byte that is no digit.
-/
namespace IndexExplorer.Text.Utf7

/-- Among characters of ASCII, behind a plus sign, or among digits: the bits that are left of them,
how many they are, and the first half of a pair of units that waits for the other. -/
inductive State where
  | direct
  | opened
  | digits (bits count : Nat) (half : Option Nat)

/-- The value of a digit. -/
def digit? (b : Nat) : Option Nat :=
  if 'A'.toNat ≤ b ∧ b ≤ 'Z'.toNat then some (b - 'A'.toNat)
  else if 'a'.toNat ≤ b ∧ b ≤ 'z'.toNat then some (b - 'a'.toNat + 26)
  else if '0'.toNat ≤ b ∧ b ≤ '9'.toNat then some (b - '0'.toNat + 52)
  else if b = '+'.toNat then some 62
  else if b = '/'.toNat then some 63
  else none

/-- What a byte does among characters of ASCII. -/
def start (b : Nat) : List (Option Char) × State :=
  if b = '+'.toNat then ([], .opened)
  else if b < 0x80 then ([some (Char.ofNat b)], .direct)
  else ([none], .direct)

/-- The characters that a unit ends, and the half of a pair that it begins. -/
def unit (half : Option Nat) (u : Nat) : List (Option Char) × Option Nat :=
  let alone := if Wide.isHigh u then ([], some u)
    else ([if Wide.isLow u then none else some (Char.ofNat u)], none)
  match half with
  | none => alone
  | some high =>
    if Wide.isLow u then ([some (Wide.joined high u)], none) else (none :: alone.1, alone.2)

/-- What a digit does. -/
def push (bits count : Nat) (half : Option Nat) (digit : Nat) : List (Option Char) × State :=
  let bits := bits * 64 + digit
  let count := count + 6
  if 16 ≤ count then
    let (out, half) := unit half (bits / Nat.pow 2 (count - 16))
    (out, .digits (bits % Nat.pow 2 (count - 16)) (count - 16) half)
  else ([], .digits bits count half)

/-- Bits are left that make up a digit or are not zero. -/
def unfinished (bits count : Nat) : Bool := 6 ≤ count || (0 < count && bits != 0)

/-- What a byte does in a state: the characters it ends, `none` for a malformed one, and the state
after it. -/
def step (s : State) (b : Nat) : List (Option Char) × State :=
  match s with
  | .direct => start b
  | .opened =>
    if b = '-'.toNat then ([some '+'], .direct)
    else
      match digit? b with
      | some d => push 0 0 none d
      | none => ([none], .direct)
  | .digits bits count half =>
    match digit? b with
    | some d => push bits count half d
    | none =>
      if unfinished bits count then ([none], .direct)
      else
        let (out, s) := if b = '-'.toNat then ([], .direct) else start b
        (if half.isSome ∧ b < 0x80 then none :: out else out, s)

/-- The characters of the bytes, `none` for each malformed one. -/
def units : State → List Nat → List (Option Char)
  | .direct, [] | .opened, [] => []
  | .digits bits count half, [] => if half.isSome ∨ unfinished bits count then [none] else []
  | s, b :: bs =>
    let (out, s) := step s b
    out ++ units s bs

end IndexExplorer.Text.Utf7
