import IndexExplorer.Text.Chart.KsX1001
import IndexExplorer.Text.Reading

/-!
Character sets of Korea.

A syllable is composed of an initial consonant, a vowel and, if it is not open, a final consonant.

* `syllable_isValidChar`: letters of the alphabet compose to the number of a character.
-/
namespace IndexExplorer.Text.Korean

/-- The consonants that begin a syllable. -/
def initials : List Char := "ㄱㄲㄴㄷㄸㄹㅁㅂㅃㅅㅆㅇㅈㅉㅊㅋㅌㅍㅎ".toList

/-- The vowels. -/
def vowels : List Char := "ㅏㅐㅑㅒㅓㅔㅕㅖㅗㅘㅙㅚㅛㅜㅝㅞㅟㅠㅡㅢㅣ".toList

/-- The consonants that end a syllable. -/
def finals : List Char := "ㄱㄲㄳㄴㄵㄶㄷㄹㄺㄻㄼㄽㄾㄿㅀㅁㅂㅄㅅㅆㅇㅈㅊㅋㅌㅍㅎ".toList

/-- Stands in the place of a letter that is missing. -/
def filler : Char := '\u3164'

/-- The number of a syllable by the places of its letters; an open one has 0 for its final, and else
the finals count from 1. -/
def syllable (initial vowel final : Nat) : Nat := 0xac00 + (initial * 21 + vowel) * 28 + final

theorem syllable_isValidChar {initial vowel final : Nat} (hi : initial < 19) (hv : vowel < 21)
    (hf : final < 28) : (syllable initial vowel final).isValidChar := by
  left
  unfold syllable
  omega

/-- The syllable of three letters, the last of which may be the filler. -/
def compose? (initial vowel final : Char) : Option Char := do
  let i ← initials.idxOf? initial
  let v ← vowels.idxOf? vowel
  let f ← if final = filler then some 0 else (finals.idxOf? final).map (· + 1)
  return Char.ofNat (syllable i v f)

/-- The character of two bytes in EUC. -/
def eucChar? (a b : Nat) : Option Char := Chart.ksX1001.highChar? a b

/-- Reads one character of EUC: the filler begins a syllable that is written as four letters. -/
def euc : List Nat → Reading
  | 0xa4 :: 0xd4 :: rest =>
    match rest with
    | a :: i :: b :: v :: c :: f :: _ =>
      if a = 0xa4 ∧ b = 0xa4 ∧ c = 0xa4 then
        Reading.ofChar? 8 (do compose? (← eucChar? a i) (← eucChar? b v) (← eucChar? c f))
      else .malformed 1
    | _ => .cut
  | bytes => Reading.asciiOrDouble eucChar? bytes

/-- The syllables that KS X 1001 lacks, in the order of their numbers. -/
def furtherSyllables : Array Nat := (Chart.lacking Chart.ksX1001.chars 0xac00 0xd7a3).toArray

/-- The place in a row of the byte that ends a further syllable: letters of ASCII, and bytes from
0x81 on. -/
def column? (b : Nat) : Option Nat :=
  if 0x41 ≤ b ∧ b ≤ 0x5a then some (b - 0x41)
  else if 0x61 ≤ b ∧ b ≤ 0x7a then some (b - 0x61 + 26)
  else if 0x81 ≤ b ∧ b ≤ 0xfe then some (b - 0x81 + 52)
  else none

/-- Which of the further syllables the vendors' form writes with two bytes: 32 rows are wholly
theirs, of the rows from 0xa1 on the part in front of the signs of KS X 1001. -/
def furtherRank? (a b : Nat) : Option Nat :=
  (column? b).bind fun column =>
    if 0x81 ≤ a ∧ a ≤ 0xa0 then some ((a - 0x81) * 178 + column)
    else if 0xa1 ≤ a ∧ a ≤ 0xc6 ∧ b ≤ 0xa0 then some (32 * 178 + (a - 0xa1) * 84 + column)
    else none

/-- The character of two bytes in the vendors' form. -/
def vendorChar? (a b : Nat) : Option Char :=
  (eucChar? a b).or <|
    (furtherRank? a b).bind fun i => furtherSyllables[i]?.map Char.ofNat

/-- A letter in five bits: none, its place, or no letter. -/
inductive Letter where
  | filler
  | place (i : Nat)

/-- The initial consonant of five bits. -/
def initial? (n : Nat) : Option Letter :=
  if n = 1 then some .filler
  else if 2 ≤ n ∧ n ≤ 20 then some (.place (n - 2))
  else none

/-- The vowel of five bits: they leave out two numbers after each six. -/
def vowel? (n : Nat) : Option Letter :=
  if n = 2 then some .filler
  else if 3 ≤ n ∧ n ≤ 29 ∧ 2 ≤ n % 8 then some (.place (n / 8 * 6 + n % 8 - 3))
  else none

/-- The final consonant of five bits. -/
def final? (n : Nat) : Option Letter :=
  if n = 1 then some .filler
  else if 2 ≤ n ∧ n ≤ 17 then some (.place (n - 2))
  else if 19 ≤ n ∧ n ≤ 29 then some (.place (n - 3))
  else none

/-- The syllable or the single letter of three letters. -/
def combine? : Letter → Letter → Letter → Option Char
  | .place i, .place v, .place f => some (Char.ofNat (syllable i v (f + 1)))
  | .place i, .place v, .filler => some (Char.ofNat (syllable i v 0))
  | .place i, .filler, .filler => initials[i]?
  | .filler, .place v, .filler => vowels[v]?
  | .filler, .filler, .place f => finals[f]?
  | .filler, .filler, .filler => some '\u3000'
  | _, _, _ => none

/-- The place in KS X 1001 of two bytes of Johab from 0xd8 on: two rows share a first byte. -/
def signPlace? (a b : Nat) : Option (Nat × Nat) :=
  if a ≤ 0xd8 ∨ a = 0xdf ∨ 0xf9 < a ∨ b < 0x31 ∨ (0x80 ≤ b ∧ b < 0x91) ∨ b % 0x80 = 0x7f ∨
      (a = 0xda ∧ 0xa1 ≤ b ∧ b ≤ 0xd3) then
    none
  else
    let row := if a < 0xe0 then 2 * (a - 0xd9) else 2 * (a - 0xe0) + 0x29
    let column := b - if b < 0x91 then 0x31 else 0x43
    some (row + column / 94 + 0x21, column % 94 + 0x21)

/-- The character of two bytes in Johab: a bit, and five bits for each letter of a syllable. -/
def johabChar? (a b : Nat) : Option Char :=
  if a < 0xd8 then do
    let bits := a * 256 + b
    combine? (← initial? (bits / 1024 % 32)) (← vowel? (bits / 32 % 32)) (← final? (bits % 32))
  else (signPlace? a b).bind fun (row, column) => Chart.ksX1001.char? row column

end IndexExplorer.Text.Korean
