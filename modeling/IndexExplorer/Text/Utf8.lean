/-!
Decoding bytes as UTF-8 when some of them may be malformed.

The decoder is a machine that takes a byte at a time. A byte that cannot go on with the character
begun ends it as malformed and is then looked at afresh, so that each longest beginning of a
character is reported once.
-/
namespace IndexExplorer.Text.Utf8

/-- Between characters, or inside one: bytes still to come, the code point so far, and the range
that the next byte has to be in. -/
inductive State where
  | ready
  | inside (left point low high : Nat)

/-- What a byte does between characters. -/
def start (b : Nat) : List (Option Char) × State :=
  if b < 0x80 then ([some (Char.ofNat b)], .ready)
  else if b < 0xc2 then ([none], .ready)
  else if b < 0xe0 then ([], .inside 1 (b - 0xc0) 0x80 0xbf)
  else if b < 0xf0 then
    ([], .inside 2 (b - 0xe0) (if b = 0xe0 then 0xa0 else 0x80) (if b = 0xed then 0x9f else 0xbf))
  else if b < 0xf5 then
    ([], .inside 3 (b - 0xf0) (if b = 0xf0 then 0x90 else 0x80) (if b = 0xf4 then 0x8f else 0xbf))
  else ([none], .ready)

/-- What a byte does in a state: the characters it ends, `none` for a malformed one, and the state
after it. -/
def step (s : State) (b : Nat) : List (Option Char) × State :=
  match s with
  | .ready => start b
  | .inside left point low high =>
    if low ≤ b ∧ b ≤ high then
      let point := point * 64 + (b - 0x80)
      if left ≤ 1 then ([some (Char.ofNat point)], .ready)
      else ([], .inside (left - 1) point 0x80 0xbf)
    else
      let (out, s) := start b
      (none :: out, s)

/-- The characters of the bytes, `none` for each malformed one. -/
def units : State → List UInt8 → List (Option Char)
  | .ready, [] => []
  | .inside .., [] => [none]
  | s, b :: bs =>
    let (out, s) := step s b.toNat
    out ++ units s bs

/-- Stands for what could not be decoded. -/
def replacement : Char := '\ufffd'

/-- The text of the bytes, with a replacement character for each malformed one. -/
def decode (bytes : ByteArray) : String :=
  String.ofList ((units .ready bytes.toList).map (·.getD replacement))

end IndexExplorer.Text.Utf8
