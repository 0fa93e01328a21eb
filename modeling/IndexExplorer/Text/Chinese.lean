import IndexExplorer.Text.Chart.Big5
import IndexExplorer.Text.Chart.Gb
import IndexExplorer.Text.Chart.HongKong
import IndexExplorer.Text.Reading

/-!
Character sets of China, Taiwan and Hong Kong in which a character of two bytes begins with a byte
from 128 on.
-/
namespace IndexExplorer.Text.Chinese

/-- The place in a row of the byte that ends a character: from 0x40 on without 0x7f. -/
def column? (b : Nat) : Option Nat :=
  if 0x40 ≤ b ∧ b < 0x7f then some (b - 0x40)
  else if 0x80 ≤ b ∧ b ≤ 0xfe then some (b - 0x41)
  else none

/-- The ideographs that GB 2312 lacks, in the order of their numbers. -/
def furtherIdeographs : Array Nat := (Chart.lacking Chart.gb2312.chars 0x4e00 0x9fa5).toArray

/-- Which of the further ideographs GBK writes with two bytes: 32 rows are wholly theirs, of the
rows from 0xaa on the part in front of the signs of GB 2312. -/
def furtherRank? (a b : Nat) : Option Nat :=
  (column? b).bind fun column =>
    if 0x81 ≤ a ∧ a ≤ 0xa0 then some ((a - 0x81) * 190 + column)
    else if 0xaa ≤ a ∧ a ≤ 0xfe ∧ b ≤ 0xa0 then some (32 * 190 + (a - 0xaa) * 96 + column)
    else none

/-- The character of two bytes in GB 2312. -/
def gb2312Char? (a b : Nat) : Option Char := Chart.gb2312.highChar? a b

/-- The character of two bytes in GBK. -/
def gbkChar? (a b : Nat) : Option Char :=
  (Chart.gbkSigns.char? a b).or <|
    (gb2312Char? a b).or <| (furtherRank? a b).bind fun i => furtherIdeographs[i]?.map Char.ofNat

/-- The character of two bytes in the areas that GB 18030 leaves to the user. -/
def userChar? (a b : Nat) : Option Char :=
  if 0xaa ≤ a ∧ a ≤ 0xaf ∧ 0xa1 ≤ b ∧ b ≤ 0xfe then
    some (Char.ofNat (0xe000 + (a - 0xaa) * 94 + (b - 0xa1)))
  else if 0xf8 ≤ a ∧ a ≤ 0xfe ∧ 0xa1 ≤ b ∧ b ≤ 0xfe then
    some (Char.ofNat (0xe234 + (a - 0xf8) * 94 + (b - 0xa1)))
  else if 0xa1 ≤ a ∧ a ≤ 0xa7 ∧ b ≤ 0xa0 then
    (column? b).map fun column => Char.ofNat (0xe4c6 + (a - 0xa1) * 96 + column)
  else none

/-- The character of two bytes in GB 18030. -/
def gb18030Char? (a b : Nat) : Option Char :=
  (gbkChar? a b).or <| (Chart.gb18030Signs.char? a b).or <| userChar? a b

/-- The characters from 128 to 65535 that GB 18030 does not write with two bytes, in their order. -/
def fourByteChars : Array Nat :=
  let doubles := Chart.gb2312.chars.filter (· ≠ '・') ++ Chart.gbkSigns.chars ++
    Chart.gb18030Signs.chars ++ (List.range' 0x4e00 (0x9fa6 - 0x4e00)).map Char.ofNat ++
    (List.range' 0xe000 (0xe766 - 0xe000)).map Char.ofNat
  (Chart.lacking doubles 0x80 0xd7ff ++ Chart.lacking doubles 0xe000 0xffff).toArray

/-- The character of four bytes in GB 18030: they count from 0x81, 0x30, 0x81 and 0x30 on, the last
fastest. From the first byte 0x90 on the characters beyond 65535 follow each other. -/
def fourByteChar? (a b c d : Nat) : Option Char :=
  if 0x81 ≤ a ∧ a ≤ 0xfe ∧ 0x30 ≤ b ∧ b ≤ 0x39 ∧ 0x81 ≤ c ∧ c ≤ 0xfe ∧ 0x30 ≤ d ∧ d ≤ 0x39 then
    let count (a : Nat) := ((a * 10 + (b - 0x30)) * 126 + (c - 0x81)) * 10 + (d - 0x30)
    if a < 0x90 then fourByteChars[count (a - 0x81)]?.map Char.ofNat
    else
      let n := 0x10000 + count (a - 0x90)
      if n ≤ 0x10ffff then some (Char.ofNat n) else none
  else none

/-- Reads one character of GB 18030: with a digit as its second byte it takes four. -/
def gb18030 : List Nat → Reading
  | a :: b :: rest =>
    if 0x80 ≤ a ∧ 0x30 ≤ b ∧ b ≤ 0x39 then
      match rest with
      | c :: d :: _ => Reading.ofChar? 4 (fourByteChar? a b c d)
      | _ => .cut
    else Reading.asciiOrDouble gb18030Char? (a :: b :: rest)
  | bytes => Reading.asciiOrDouble gb18030Char? bytes

/-- The character of two bytes in Big5. -/
def big5Char? (a b : Nat) : Option Char := Chart.big5.char? a b

/-- The character of two bytes in the vendors' form of Big5. -/
def vendorChar? (a b : Nat) : Option Char := (Chart.big5Vendor.char? a b).or (big5Char? a b)

/-- The character of two bytes in the form of Big5 for Hong Kong, which does without the signs from
0xc6a1 to 0xc8fe of Big5. -/
def hongKongChar? (a b : Nat) : Option Char :=
  (Chart.hongKong.char? a b).or <|
    if (0xc6 ≤ a ∧ a ≤ 0xc8) ∧ ¬(a = 0xc6 ∧ b < 0xa1) then none else big5Char? a b

/-- Reads one character of the form of Big5 for Hong Kong, or the two that share one place. -/
def hongKong : List Nat → Reading
  | a :: b :: rest =>
    match Chart.hongKongPairs.find? fun (lead, second, _) => lead = a && second = b with
    | some (_, _, pair) => .chars pair.toList 2
    | none => Reading.asciiOrDouble hongKongChar? (a :: b :: rest)
  | bytes => Reading.asciiOrDouble hongKongChar? bytes

end IndexExplorer.Text.Chinese
