import IndexExplorer.Number.Read
import Mathlib.Data.List.TakeWhile

/-!
Decimal numerals as they are written, and what is read from them.

* `Spelling`, `Sound`: the parts of a numeral and the form that they have;
* `takeNumeral_eq_some_iff`: a text is read as a numeral as a whole exactly when it is the unsigned
  part of a well-formed spelling.
-/
namespace IndexExplorer.Number

/-! ## Spellings -/

/-- A mark in front of digits, or none. -/
def IsSign (cs : List Char) : Prop := cs = [] ∨ cs = ['+'] ∨ cs = ['-']

/-- The power of ten behind a numeral: its mark, its sign and its digits. -/
structure Power where
  mark : Char
  sign : List Char
  digits : List Char

/-- A numeral as it is written: its sign, the digits in front of the point, those behind it if there
is a point, and a power of ten if there is one. -/
structure Spelling where
  sign : List Char
  whole : List Char
  fraction : Option (List Char)
  power : Option Power

/-- A power is well formed: one or more of these digits behind a mark and possibly a sign. -/
structure Power.Sound (digit : Char → Bool) (p : Power) : Prop where
  mark : p.mark = 'e' ∨ p.mark = 'E'
  sign : IsSign p.sign
  present : p.digits ≠ []
  digits : ∀ c ∈ p.digits, digit c

/-- The characters from the point on. -/
def fractionChars : Option (List Char) → List Char
  | none => []
  | some ds => '.' :: ds

/-- The characters of a power. -/
def powerChars : Option Power → List Char
  | none => []
  | some p => p.mark :: (p.sign ++ p.digits)

namespace Spelling

/-- The characters behind the sign. -/
def unsigned (s : Spelling) : List Char :=
  s.whole ++ (fractionChars s.fraction ++ powerChars s.power)

/-- The characters of a numeral. -/
def chars (s : Spelling) : List Char := s.sign ++ s.unsigned

/-- A numeral is well formed, with these digits: there is one in front of the point or behind it. -/
structure Sound (digit : Char → Bool) (s : Spelling) : Prop where
  sign : IsSign s.sign
  whole : ∀ c ∈ s.whole, digit c
  fraction : ∀ ds, s.fraction = some ds → ∀ c ∈ ds, digit c
  present : s.whole ≠ [] ∨ ∃ ds, s.fraction = some ds ∧ ds ≠ []
  power : ∀ p, s.power = some p → p.Sound digit

/-- A numeral has neither a point nor a power. -/
def IsInteger (s : Spelling) : Prop := s.fraction = none ∧ s.power = none

end Spelling

/-- The sign is a minus. -/
def negated (sign : List Char) : Bool := sign == ['-']

/-- The exponent that a power tells. -/
def exponentOf : Option Power → Int
  | none => 0
  | some p => if negated p.sign then -(ofDigits p.digits : Int) else ofDigits p.digits

/-- The numeral that is spelt. -/
def Spelling.numeral (s : Spelling) : Numeral := ⟨s.whole, s.fraction.getD [], exponentOf s.power⟩

/-- The characters of a numeral that are no digits. -/
def marks : List Char := ['+', '-', '.', 'e', 'E']

theorem IsSign.mem_marks {sign : List Char} (h : IsSign sign) : ∀ c ∈ sign, c ∈ marks := by
  rcases h with rfl | rfl | rfl
  · exact nofun
  · exact List.forall_mem_singleton.mpr (by decide)
  · exact List.forall_mem_singleton.mpr (by decide)

/-- Digits, signs, points and marks of a power are all that a numeral is written with. -/
theorem mem_chars {digit : Char → Bool} {s : Spelling} (sound : s.Sound digit) {c : Char}
    (mem : c ∈ s.chars) : digit c ∨ c ∈ marks := by
  rw [Spelling.chars, Spelling.unsigned, List.mem_append, List.mem_append, List.mem_append] at mem
  rcases mem with sign | whole | fraction | power
  · exact .inr (sound.sign.mem_marks c sign)
  · exact .inl (sound.whole c whole)
  · cases e : s.fraction with
    | none =>
      rw [e] at fraction
      cases fraction
    | some ds =>
      rw [e] at fraction
      rcases List.mem_cons.mp fraction with rfl | digit
      · exact .inr (by decide)
      · exact .inl (sound.fraction ds e c digit)
  · cases e : s.power with
    | none =>
      rw [e] at power
      cases power
    | some p =>
      obtain ⟨mark, sign, -, digits⟩ := sound.power p e
      rw [e] at power
      rcases List.mem_cons.mp power with rfl | behind
      · rcases mark with e | e <;> rw [e] <;> exact .inr (by decide)
      · rcases List.mem_append.mp behind with front | digit
        · exact .inr (sign.mem_marks c front)
        · exact .inl (digits c digit)

/-! ## Reading in steps -/

/-- The digits of a fraction at the beginning of a text, and what follows. -/
def takeFraction (cs : List Char) : List Char × List Char :=
  match cs with
  | '.' :: after => (after.takeWhile Char.isDigit, after.dropWhile Char.isDigit)
  | _ => ([], cs)

/-- The exponent at the beginning of a text, and what follows. -/
def takePower (cs : List Char) : Int × List Char :=
  match cs with
  | e :: after =>
    if e = 'e' || e = 'E' then
      let (negative, ds) := splitSign after
      let digits := ds.takeWhile Char.isDigit
      if digits.isEmpty then (0, cs)
      else
        let n : Int := ofDigits digits
        (if negative then -n else n, ds.dropWhile Char.isDigit)
    else (0, cs)
  | [] => (0, [])

/-- A numeral is read in steps. -/
theorem takeNumeral_eq (cs : List Char) :
    takeNumeral cs =
      if (cs.takeWhile Char.isDigit).isEmpty &&
          (takeFraction (cs.dropWhile Char.isDigit)).1.isEmpty then none
      else
        some (⟨cs.takeWhile Char.isDigit, (takeFraction (cs.dropWhile Char.isDigit)).1,
            (takePower (takeFraction (cs.dropWhile Char.isDigit)).2).1⟩,
          (takePower (takeFraction (cs.dropWhile Char.isDigit)).2).2) := by
  generalize fraction : takeFraction (cs.dropWhile Char.isDigit) = cut
  have read : takeNumeral cs =
      if (cs.takeWhile Char.isDigit).isEmpty && cut.1.isEmpty then none
      else match cut.2 with
        | e :: after =>
          if e = 'e' || e = 'E' then
            if ((splitSign after).2.takeWhile Char.isDigit).isEmpty then
              some (⟨cs.takeWhile Char.isDigit, cut.1, 0⟩, cut.2)
            else
              some (⟨cs.takeWhile Char.isDigit, cut.1, if (splitSign after).1
                  then -(ofDigits ((splitSign after).2.takeWhile Char.isDigit) : Int)
                  else ofDigits ((splitSign after).2.takeWhile Char.isDigit)⟩,
                (splitSign after).2.dropWhile Char.isDigit)
          else some (⟨cs.takeWhile Char.isDigit, cut.1, 0⟩, cut.2)
        | [] => some (⟨cs.takeWhile Char.isDigit, cut.1, 0⟩, []) := by
    subst fraction
    rfl
  rw [read]
  obtain ⟨fraction, behind⟩ := cut
  cases behind with
  | nil => rfl
  | cons e after =>
    simp only [takePower]
    split
    · rfl
    · split
      · split <;> rfl
      · rfl

/-- Digits in front of something that does not begin with one. -/
theorem digits_append {ds rest : List Char} (digits : ∀ c ∈ ds, c.isDigit)
    (stop : ∀ c, rest.head? = some c → c.isDigit = false) :
    (ds ++ rest).takeWhile Char.isDigit = ds ∧ (ds ++ rest).dropWhile Char.isDigit = rest := by
  rw [List.takeWhile_append_of_pos digits, List.dropWhile_append_of_pos digits]
  cases rest with
  | nil => simp
  | cons c rest => simp [stop c rfl]

theorem splitSign_append {sign cs : List Char} (signed : IsSign sign)
    (head : ∀ c, cs.head? = some c → c ≠ '+' ∧ c ≠ '-') :
    splitSign (sign ++ cs) = (negated sign, cs) := by
  rcases signed with rfl | rfl | rfl
  · cases cs with
    | nil => rfl
    | cons c cs =>
      obtain ⟨plus, minus⟩ := head c rfl
      simp [splitSign, plus, minus, negated]
  · rfl
  · rfl

/-- What is split off in front of a text is a sign. -/
theorem exists_sign (cs : List Char) :
    ∃ sign, IsSign sign ∧ cs = sign ++ (splitSign cs).2 ∧ (splitSign cs).1 = negated sign := by
  unfold splitSign
  split
  · exact ⟨['-'], .inr (.inr rfl), rfl, rfl⟩
  · exact ⟨['+'], .inr (.inl rfl), rfl, rfl⟩
  · exact ⟨[], .inl rfl, rfl, rfl⟩

/-- The characters behind the sign begin with a digit or a point. -/
theorem head_unsigned {digit : Char → Bool} {s : Spelling} (sound : s.Sound digit) {c : Char}
    (head : s.unsigned.head? = some c) : digit c ∨ c = '.' := by
  rw [Spelling.unsigned] at head
  cases whole : s.whole with
  | cons d ds =>
    rw [whole] at head
    obtain rfl : d = c := Option.some.inj head
    exact .inl (sound.whole d (whole ▸ List.mem_cons_self))
  | nil =>
    rcases sound.present with some | ⟨ds, fraction, -⟩
    · exact absurd whole some
    · rw [whole, fraction] at head
      exact .inr (Option.some.inj head).symm

/-- The sign is what is split off in front of a numeral. -/
theorem splitSign_chars {s : Spelling} (sound : s.Sound Char.isDigit) :
    splitSign s.chars = (negated s.sign, s.unsigned) := by
  refine splitSign_append sound.sign fun c head => ?_
  rcases head_unsigned sound head with digit | rfl
  · constructor <;> rintro rfl <;> cases digit
  · decide

theorem takeFraction_fractionChars {fraction : Option (List Char)} {rest : List Char}
    (digits : ∀ ds, fraction = some ds → ∀ c ∈ ds, c.isDigit)
    (stop : ∀ c, rest.head? = some c → c.isDigit = false ∧ c ≠ '.') :
    takeFraction (fractionChars fraction ++ rest) = (fraction.getD [], rest) := by
  cases fraction with
  | none =>
    cases rest with
    | nil => rfl
    | cons c rest => simp [takeFraction, fractionChars, (stop c rfl).2]
  | some ds =>
    obtain ⟨taken, left⟩ := digits_append (digits ds rfl) fun c head => (stop c head).1
    simp [takeFraction, fractionChars, taken, left]

/-- What is taken as a fraction was written as one. -/
theorem exists_fraction (cs : List Char) :
    ∃ fraction, cs = fractionChars fraction ++ (takeFraction cs).2 ∧
      (takeFraction cs).1 = fraction.getD [] ∧
      ∀ ds, fraction = some ds → ∀ c ∈ ds, c.isDigit := by
  unfold takeFraction
  split
  · rename_i after
    refine ⟨some (after.takeWhile Char.isDigit), ?_, rfl, ?_⟩
    · simp [fractionChars]
    · rintro ds ⟨⟩ c mem
      exact List.mem_takeWhile_imp mem
  · exact ⟨none, rfl, rfl, nofun⟩

theorem takePower_powerChars {power : Option Power}
    (sound : ∀ p, power = some p → p.Sound Char.isDigit) :
    takePower (powerChars power) = (exponentOf power, []) := by
  cases power with
  | none => rfl
  | some p =>
    obtain ⟨mark, sign, present, digits⟩ := sound p rfl
    have unsigned : ∀ c, p.digits.head? = some c → c ≠ '+' ∧ c ≠ '-' := by
      intro c head
      have digit := digits c (List.mem_of_mem_head? head)
      constructor <;> rintro rfl <;> cases digit
    have marked : (p.mark = 'e' || p.mark = 'E') = true := by simpa using mark
    simp only [takePower, powerChars, marked, ↓reduceIte, splitSign_append sign unsigned,
      List.takeWhile_eq_self_iff.mpr digits, List.dropWhile_eq_nil_iff.mpr digits, exponentOf]
    rw [if_neg (by simpa using present)]

/-- A text that is taken as an exponent as a whole was written as one. -/
theorem exists_power {cs : List Char} (all : (takePower cs).2 = []) :
    ∃ power, cs = powerChars power ∧ (takePower cs).1 = exponentOf power ∧
      ∀ p, power = some p → p.Sound Char.isDigit := by
  cases cs with
  | nil => exact ⟨none, rfl, rfl, nofun⟩
  | cons e after =>
    unfold takePower at all ⊢
    dsimp only at all ⊢
    obtain ⟨sign, signed, text, negative⟩ := exists_sign after
    split at all
    · rename_i mark
      split at all
      · cases all
      · rename_i present
        rw [if_pos mark, if_neg present]
        have digits : ∀ c ∈ (splitSign after).2, c.isDigit := List.dropWhile_eq_nil_iff.mp all
        rw [List.takeWhile_eq_self_iff.mpr digits] at present ⊢
        refine ⟨some ⟨e, sign, (splitSign after).2⟩, ?_, ?_, ?_⟩
        · rw [powerChars, ← text]
        · rw [exponentOf, negative]
        · rintro p ⟨⟩
          exact ⟨by simpa using mark, signed, by simpa using present, digits⟩
    · cases all

theorem head_powerChars {power : Option Power}
    (sound : ∀ p, power = some p → p.Sound Char.isDigit) {c : Char}
    (head : (powerChars power).head? = some c) : c.isDigit = false ∧ c ≠ '.' := by
  cases power with
  | none => cases head
  | some p =>
    obtain rfl : p.mark = c := Option.some.inj head
    rcases (sound p rfl).mark with e | e <;> rw [e] <;> decide

theorem head_fractionChars (fraction : Option (List Char)) {rest : List Char}
    (stop : ∀ c, rest.head? = some c → c.isDigit = false) {c : Char}
    (head : (fractionChars fraction ++ rest).head? = some c) : c.isDigit = false := by
  cases fraction with
  | none => exact stop c head
  | some ds =>
    obtain rfl : '.' = c := Option.some.inj head
    decide

/-- A well-formed numeral is read as such, -/
theorem takeNumeral_unsigned {s : Spelling} (sound : s.Sound Char.isDigit) :
    takeNumeral s.unsigned = some (s.numeral, []) := by
  have stop : ∀ c, (powerChars s.power).head? = some c → c.isDigit = false ∧ c ≠ '.' :=
    fun c => head_powerChars sound.power
  obtain ⟨whole, behind⟩ := digits_append sound.whole
    fun c => head_fractionChars s.fraction fun c head => (stop c head).1
  have some : ¬ (s.whole.isEmpty && (s.fraction.getD []).isEmpty) = true := by
    simp only [Bool.and_eq_true, List.isEmpty_iff, not_and]
    intro none
    rcases sound.present with first | ⟨ds, fraction, first⟩
    · exact absurd none first
    · rwa [fraction]
  rw [takeNumeral_eq, Spelling.unsigned, whole, behind,
    takeFraction_fractionChars sound.fraction stop, takePower_powerChars sound.power, if_neg some]
  rfl

/-- and a text that is read as a numeral as a whole is one. -/
theorem exists_spelling {cs : List Char} {n : Numeral} (h : takeNumeral cs = some (n, [])) :
    ∃ s : Spelling, s.Sound Char.isDigit ∧ s.sign = [] ∧ s.unsigned = cs ∧ s.numeral = n := by
  rw [takeNumeral_eq] at h
  split at h
  · cases h
  · rename_i present
    obtain ⟨rfl, all⟩ := Prod.mk.inj (Option.some.inj h)
    obtain ⟨fraction, behind, digits, each⟩ := exists_fraction (cs.dropWhile Char.isDigit)
    obtain ⟨power, rest, exponent, sound⟩ := exists_power all
    refine ⟨⟨[], cs.takeWhile Char.isDigit, fraction, power⟩, ⟨.inl rfl, ?_, each, ?_, sound⟩, rfl,
      ?_, ?_⟩
    · exact fun c mem => List.mem_takeWhile_imp mem
    · rw [digits] at present
      simp only [Bool.and_eq_true, List.isEmpty_iff, not_and_or] at present
      rcases present with first | first
      · exact .inl first
      · cases fraction with
        | none => exact absurd rfl first
        | some ds => exact .inr ⟨ds, rfl, first⟩
    · rw [Spelling.unsigned, ← rest, ← behind, List.takeWhile_append_dropWhile]
    · rw [Spelling.numeral, digits, exponent]

end IndexExplorer.Number
