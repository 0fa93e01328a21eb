import IndexExplorer.Number.Lenient
import IndexExplorer.Proofs.Number.Script

/-!
Integers as a person may type them.

* `Grouped`, `Spells`: digits of any script with single underscores between them, behind a sign or
  none, and blanks around;
* `digitRun_append`, `exists_grouped`: the digits at the beginning of a text;
* `plainChar_cases`, `Grouped.plain`, `Grouped.of_plain`: what is written and what is read in its
  place;
* **`readInt_ok_iff`**: a text is read as an integer exactly when it spells it.
-/
namespace IndexExplorer.Number

open Text

/-! ## What spells an integer -/

/-- Digits with single underscores between them, and the digits alone. -/
inductive Grouped (digit : Char → Bool) : List Char → List Char → Prop
  | last {c : Char} : digit c → Grouped digit [c] [c]
  | cons {c : Char} {written ds : List Char} : digit c → Grouped digit written ds →
      Grouped digit (c :: written) (c :: ds)
  | mark {c : Char} {written ds : List Char} : digit c → Grouped digit written ds →
      Grouped digit (c :: '_' :: written) (c :: ds)

/-- The integer that digits are behind a sign. -/
def signedValue (sign ds : List Char) : Int :=
  if negated sign then -(decimal ds : Int) else decimal ds

/-- A text spells an integer: blanks, a sign or none, digits of any script with single underscores
between them, and blanks. The digits are not more than are turned into an integer. -/
def Spells (s : String) (n : Int) : Prop :=
  ∃ lead sign written trail ds, s.toList = lead ++ (sign ++ (written ++ trail)) ∧
    (∀ c ∈ lead, Lenient.isSpace c) ∧ IsSign sign ∧ Grouped isDigit written ds ∧
    (∀ c ∈ trail, Lenient.isSpace c) ∧ ds.length ≤ digitLimit ∧ signedValue sign ds = n

/-! ## Groups of digits -/

namespace Grouped

variable {digit : Char → Bool} {written ds : List Char}

theorem digits (h : Grouped digit written ds) : ∀ c ∈ ds, digit c := by
  induction h with
  | last own => exact List.forall_mem_singleton.mpr own
  | cons own _ ih => exact List.forall_mem_cons.mpr ⟨own, ih⟩
  | mark own _ ih => exact List.forall_mem_cons.mpr ⟨own, ih⟩

theorem ne_nil (h : Grouped digit written ds) : ds ≠ [] := by
  cases h <;> exact List.cons_ne_nil _ _

/-- The first character is a digit. -/
theorem head_append (h : Grouped digit written ds) {rest : List Char} {c : Char}
    (head : (written ++ rest).head? = some c) : digit c := by
  cases h with
  | last own => exact Option.some.inj head ▸ own
  | cons own _ => exact Option.some.inj head ▸ own
  | mark own _ => exact Option.some.inj head ▸ own

end Grouped

variable {cs ds rest written : List Char} {c : Char} {afterMark : Bool}

theorem ne_mark_of_isDigit (digit : c.isDigit) : c ≠ '_' := by
  rintro rfl
  cases digit

theorem isSpace_of_isDigit (digit : c.isDigit) : isSpace c = false := by
  have each : ∀ n : Fin 0x80, (Char.ofNat n.val).isDigit → isSpace (Char.ofNat n.val) = false := by
    decide
  exact Url.forall_ascii (p := fun c => c.isDigit → isSpace c = false) each
    (isDigit_ascii_iff.mp digit).2 digit

theorem Grouped.dropWhile_append {sign : List Char} (h : Grouped Char.isDigit written ds)
    (signed : IsSign sign) :
    (sign ++ (written ++ rest)).dropWhile isSpace = sign ++ (written ++ rest) := by
  rcases signed with rfl | rfl | rfl
  · exact dropWhile_eq_self fun c head => isSpace_of_isDigit (h.head_append head)
  · rfl
  · rfl

theorem digitRun_cons (digit : c.isDigit) :
    digitRun (c :: cs) afterMark = (digitRun cs false).map fun (ds, rest) => (c :: ds, rest) := by
  rw [digitRun, if_neg (ne_mark_of_isDigit digit), if_pos digit]

/-- A run ends in front of a character that is neither a digit nor an underscore. -/
theorem digitRun_of_stop (stop : ∀ c, rest.head? = some c → c.isDigit = false ∧ c ≠ '_') :
    digitRun rest false = some ([], rest) := by
  cases rest with
  | nil => rfl
  | cons c rest =>
    obtain ⟨other, mark⟩ := stop c rfl
    simp [digitRun, other, mark]

/-- Grouped digits are read as a run, -/
theorem digitRun_append (h : Grouped Char.isDigit written ds)
    (stop : ∀ c, rest.head? = some c → c.isDigit = false ∧ c ≠ '_') :
    digitRun (written ++ rest) afterMark = some (ds, rest) := by
  induction h generalizing afterMark with
  | last own =>
    rw [List.singleton_append, digitRun_cons own, digitRun_of_stop stop]
    rfl
  | cons own _ ih =>
    rw [List.cons_append, digitRun_cons own, ih]
    rfl
  | mark own _ ih =>
    have behind : ∀ cs, digitRun ('_' :: cs) false = digitRun cs true := fun cs => by
      rw [digitRun, if_pos rfl, if_neg Bool.false_ne_true]
    rw [List.cons_append, digitRun_cons own, List.cons_append, behind, ih]
    rfl

/-- What can stand behind a digit in a run: nothing, digits, or digits behind an underscore. -/
def Behind (written ds : List Char) : Prop :=
  written = [] ∧ ds = [] ∨ Grouped Char.isDigit written ds ∨
    ∃ own, written = '_' :: own ∧ Grouped Char.isDigit own ds

theorem Behind.cons (h : Behind written ds) (digit : c.isDigit) :
    Grouped Char.isDigit (c :: written) (c :: ds) := by
  rcases h with ⟨rfl, rfl⟩ | grouped | ⟨own, rfl, grouped⟩
  · exact .last digit
  · exact .cons digit grouped
  · exact .mark digit grouped

/-- and what is read as a run has digits behind an underscore, and else can stand behind a digit. -/
theorem exists_behind (h : digitRun cs afterMark = some (ds, rest)) :
    ∃ written, cs = written ++ rest ∧
      if afterMark then Grouped Char.isDigit written ds else Behind written ds := by
  -- An underscore is read before it is known that a digit follows, so both are shown together.
  induction cs generalizing afterMark ds with
  | nil =>
    cases afterMark with
    | true => cases h
    | false =>
      cases h
      exact ⟨[], rfl, .inl ⟨rfl, rfl⟩⟩
  | cons c cs ih =>
    by_cases mark : c = '_'
    · subst mark
      cases afterMark with
      | true => cases h
      | false =>
        have run : digitRun cs true = some (ds, rest) := h
        obtain ⟨written, rfl, grouped⟩ := ih run
        exact ⟨'_' :: written, rfl, .inr (.inr ⟨written, rfl, grouped⟩)⟩
    · by_cases digit : c.isDigit
      · rw [digitRun_cons digit] at h
        obtain ⟨⟨own, behind⟩, run, e⟩ := Option.map_eq_some_iff.mp h
        obtain ⟨rfl, rfl⟩ := Prod.mk.inj e
        obtain ⟨written, rfl, standing⟩ := ih run
        have grouped := Behind.cons standing digit
        refine ⟨c :: written, rfl, ?_⟩
        split
        · exact grouped
        · exact .inr (.inl grouped)
      · rw [digitRun, if_neg mark, if_neg digit] at h
        cases afterMark with
        | true => cases h
        | false =>
          cases h
          exact ⟨[], rfl, .inl ⟨rfl, rfl⟩⟩

/-- The digits that a text begins with are grouped. -/
theorem exists_grouped (h : digitRun cs false = some (ds, rest)) (some : ds ≠ [])
    (mark : cs.head? ≠ .some '_') : ∃ written, cs = written ++ rest ∧
      Grouped Char.isDigit written ds := by
  obtain ⟨written, rfl, ⟨-, none⟩ | grouped | ⟨own, rfl, -⟩⟩ := exists_behind h
  · exact absurd none some
  · exact ⟨written, rfl, grouped⟩
  · exact absurd rfl mark

/-! ## What is read in place of a character -/

/-- The character that is read in place of one. -/
def plainChar (c : Char) : Char :=
  if c.toNat < 0x7f then c
  else if isBlank c then ' '
  else match digitValue? c with
    | some d => Char.ofNat (48 + d)
    | none => '?'

theorem plainChars_eq_map (cs : List Char) : plainChars cs = cs.map plainChar := rfl

/-- A character of ASCII is read as it is, a blank as a space, and a digit as the one of ASCII with
its value. Any other one is none of these. -/
theorem plainChar_cases (c : Char) :
    (c.toNat < 0x7f ∧ plainChar c = c) ∨
    (0x7f ≤ c.toNat ∧ isBlank c ∧ isDigit c = false ∧ plainChar c = ' ') ∨
    (0x7f ≤ c.toNat ∧ isBlank c = false ∧ isDigit c ∧ plainChar c = plainDigit c) ∨
    (0x7f ≤ c.toNat ∧ isBlank c = false ∧ isDigit c = false ∧ plainChar c = '?') := by
  by_cases ascii : c.toNat < 0x7f
  · exact .inl ⟨ascii, if_pos ascii⟩
  · have beyond : 0x7f ≤ c.toNat := Nat.not_lt.mp ascii
    cases blank : isBlank c with
    | true =>
      have other : isDigit c = false := by
        rw [Bool.eq_false_iff]
        intro digit
        rw [isBlank_of_isDigit digit] at blank
        cases blank
      exact .inr (.inl ⟨beyond, rfl, other, by simp [plainChar, ascii, blank]⟩)
    | false =>
      cases value : digitValue? c with
      | some d =>
        have digit : isDigit c := by simp [isDigit, value]
        refine .inr (.inr (.inl ⟨beyond, rfl, digit, ?_⟩))
        simp [plainChar, ascii, blank, value, plainDigit]
      | none =>
        have other : isDigit c = false := by simp [isDigit, value]
        exact .inr (.inr (.inr ⟨beyond, rfl, other, by simp [plainChar, ascii, blank, value]⟩))

theorem isDigit_plainChar (c : Char) : (plainChar c).isDigit = isDigit c := by
  rcases plainChar_cases c with ⟨ascii, e⟩ | ⟨-, -, other, e⟩ | ⟨-, -, digit, e⟩ | ⟨-, -, other, e⟩
  · have small : c.toNat < 0x80 := by omega
    rw [e, Bool.eq_iff_iff, isDigit_ascii_iff]
    exact and_iff_left small
  · rw [e, other]
    rfl
  · rw [e, isDigit_plainDigit]
  · rw [e, other]
    rfl

theorem plainChar_of_isDigit (digit : isDigit c) : plainChar c = plainDigit c := by
  rcases plainChar_cases c with ⟨ascii, e⟩ | ⟨-, -, other, -⟩ | ⟨-, -, -, e⟩ | ⟨-, -, other, -⟩
  · rw [e, plainDigit_of_ascii (by omega)]
  · rw [digit] at other
    cases other
  · exact e
  · rw [digit] at other
    cases other

/-- Spaces of ASCII are read in place of those blanks that may surround a number. -/
theorem isSpace_plainChar (c : Char) : isSpace (plainChar c) = Lenient.isSpace c := by
  have separator : 0x7f ≤ c.toNat → Lenient.isSpace c = isBlank c := fun beyond => by
    have none : ¬ c.toNat ≤ 0x1f := by omega
    simp [Lenient.isSpace, none]
  rcases plainChar_cases c with ⟨ascii, e⟩ | ⟨beyond, blank, -, e⟩ | ⟨beyond, blank, digit, e⟩ |
    ⟨beyond, blank, -, e⟩
  · have each : ∀ n : Fin 0x80,
        isSpace (Char.ofNat n.val) = Lenient.isSpace (Char.ofNat n.val) := by decide
    rw [e]
    exact Url.forall_ascii (p := fun c => isSpace c = Lenient.isSpace c) each (by omega)
  · rw [e, separator beyond, blank]
    rfl
  · rw [e, separator beyond, blank]
    exact isSpace_of_isDigit (isDigit_plainDigit.trans digit)
  · rw [e, separator beyond, blank]
    rfl

theorem forall_isSpace_map_plainChar :
    (∀ c ∈ cs.map plainChar, isSpace c) ↔ ∀ c ∈ cs, Lenient.isSpace c := by
  simp only [List.forall_mem_map, isSpace_plainChar]

/-- Signs and underscores are read in place of themselves alone. -/
theorem plainChar_eq_iff {m : Char} (mark : m ∈ ['+', '-', '_']) : plainChar c = m ↔ c = m := by
  have each : ∀ m ∈ ['+', '-', '_'], m.isDigit = false ∧ m ≠ ' ' ∧ m ≠ '?' ∧ plainChar m = m :=
    forall_mem_of_all (by decide)
  obtain ⟨other, space, unknown, own⟩ := each m mark
  constructor
  · rintro rfl
    rcases plainChar_cases c with ⟨-, e⟩ | ⟨-, -, -, e⟩ | ⟨-, -, digit, -⟩ | ⟨-, -, -, e⟩
    · exact e.symm
    · exact absurd e space
    · rw [isDigit_plainChar, digit] at other
      cases other
    · exact absurd e unknown
  · rintro rfl
    exact own

theorem map_plainChar_eq_sign_iff {sign : List Char} (signed : IsSign sign) :
    cs.map plainChar = sign ↔ cs = sign := by
  rcases signed with rfl | rfl | rfl
  · exact List.map_eq_nil_iff
  · simp [List.map_eq_singleton_iff, plainChar_eq_iff]
  · simp [List.map_eq_singleton_iff, plainChar_eq_iff]

/-- Grouped digits of any script are read as grouped digits of ASCII, -/
theorem Grouped.plain (h : Grouped isDigit written ds) :
    Grouped Char.isDigit (written.map plainChar) (ds.map plainChar) := by
  induction h with
  | last own => exact .last ((isDigit_plainChar _).trans own)
  | cons own _ ih => exact .cons ((isDigit_plainChar _).trans own) ih
  | mark own _ ih => exact .mark ((isDigit_plainChar _).trans own) ih

/-- and nothing else is. -/
theorem Grouped.of_plain {kept : List Char}
    (h : Grouped Char.isDigit (written.map plainChar) kept) :
    ∃ ds, Grouped isDigit written ds ∧ ds.map plainChar = kept := by
  generalize e : written.map plainChar = plain at h
  induction h generalizing written with
  | last own =>
    obtain ⟨c, rfl, rfl⟩ := List.map_eq_singleton_iff.mp e
    exact ⟨[c], .last ((isDigit_plainChar c).symm.trans own), rfl⟩
  | cons own _ ih =>
    obtain ⟨c, written, rfl, rfl, behind⟩ := List.map_eq_cons_iff.mp e
    obtain ⟨ds, grouped, rfl⟩ := ih behind
    exact ⟨c :: ds, .cons ((isDigit_plainChar c).symm.trans own) grouped, rfl⟩
  | mark own _ ih =>
    obtain ⟨c, marked, rfl, rfl, rest⟩ := List.map_eq_cons_iff.mp e
    obtain ⟨m, written, rfl, mark, behind⟩ := List.map_eq_cons_iff.mp rest
    obtain rfl := (plainChar_eq_iff (by decide)).mp mark
    obtain ⟨ds, grouped, rfl⟩ := ih behind
    exact ⟨c :: ds, .mark ((isDigit_plainChar c).symm.trans own) grouped, rfl⟩

/-- The digits that are read have the value of those that are written. -/
theorem ofDigits_map_plainChar (digits : ∀ c ∈ ds, isDigit c) :
    ofDigits (ds.map plainChar) = decimal ds := by
  rw [← ofDigits_map_plainDigit digits,
    List.map_congr_left fun c mem => plainChar_of_isDigit (digits c mem)]

/-! ## Reading -/

/-- The integer of the digits that are read behind a sign. -/
theorem readInt_ok_iff_digitRun {s : String} {n : Int} :
    readInt s = .ok n ↔ ∃ negative cs ds rest,
      splitSign ((plainChars s.toList).dropWhile isSpace) = (negative, cs) ∧ cs.head? ≠ some '_' ∧
      digitRun cs false = some (ds, rest) ∧ ds.length ≤ digitLimit ∧ ds ≠ [] ∧
      (∀ c ∈ rest, isSpace c) ∧ (if negative then -(ofDigits ds : Int) else ofDigits ds) = n := by
  unfold readInt
  obtain ⟨negative, cs⟩ := splitSign ((plainChars s.toList).dropWhile isSpace)
  dsimp only
  constructor
  · intro h
    split at h
    · cases h
    · rename_i mark
      split at h
      · cases h
      · rename_i ds rest run
        split at h
        · cases h
        · rename_i short
          split at h
          · cases h
          · rename_i form
            simp only [Bool.or_eq_true, List.isEmpty_iff, Bool.not_eq_true', not_or,
              Bool.not_eq_false, List.all_eq_true] at form
            exact ⟨negative, cs, ds, rest, rfl, mark, run, Nat.not_lt.mp short, form.1, form.2,
              Except.ok.inj h⟩
  · rintro ⟨_, _, ds, rest, ⟨⟩, mark, run, short, some, spaces, rfl⟩
    split
    · rename_i head
      exact absurd head mark
    · have form : ¬ (ds.isEmpty || !rest.all isSpace) = true := by
        simpa [some] using spaces
      simp only [run, Nat.not_lt.mpr short, form, Bool.false_eq_true, ↓reduceIte]

/-- A text that is read as an integer spells it, -/
theorem spells_of_readInt {s : String} {n : Int} (h : readInt s = .ok n) : Spells s n := by
  obtain ⟨negative, cs, ds, rest, split, mark, run, short, some, spaces, rfl⟩ :=
    readInt_ok_iff_digitRun.mp h
  obtain ⟨sign, signed, cut, sense⟩ := exists_sign ((plainChars s.toList).dropWhile isSpace)
  rw [split] at cut sense
  obtain rfl : negative = negated sign := sense
  obtain ⟨written, rfl, grouped⟩ := exists_grouped run some mark
  have whole : s.toList.map plainChar =
      (plainChars s.toList).takeWhile isSpace ++ (sign ++ (written ++ rest)) := by
    rw [← cut, List.takeWhile_append_dropWhile]
    rfl
  -- The parts of what is read come from parts of the text, one after the other.
  obtain ⟨lead, behind, text, front, later⟩ := List.map_eq_append_iff.mp whole
  obtain ⟨own, numeral, rfl, kept, last⟩ := List.map_eq_append_iff.mp later
  obtain ⟨written, trail, rfl, rfl, rfl⟩ := List.map_eq_append_iff.mp last
  obtain rfl := (map_plainChar_eq_sign_iff signed).mp kept
  obtain ⟨digits, typed, rfl⟩ := grouped.of_plain
  refine ⟨lead, own, written, trail, digits, text, ?_, signed, typed, ?_, ?_, ?_⟩
  · refine forall_isSpace_map_plainChar.mp fun c mem => ?_
    exact List.mem_takeWhile_imp (front ▸ mem)
  · exact forall_isSpace_map_plainChar.mp spaces
  · simpa using short
  · rw [signedValue, ofDigits_map_plainChar typed.digits]

/-- and what spells an integer is read as such. -/
theorem readInt_of_spells {s : String} {n : Int} (h : Spells s n) : readInt s = .ok n := by
  obtain ⟨lead, sign, written, trail, ds, text, front, signed, grouped, back, short, rfl⟩ := h
  have plain := grouped.plain
  have spaces := forall_isSpace_map_plainChar.mpr back
  have read : (plainChars s.toList).dropWhile isSpace =
      sign ++ (written.map plainChar ++ trail.map plainChar) := by
    rw [plainChars_eq_map, text, List.map_append, List.map_append, List.map_append,
      (map_plainChar_eq_sign_iff signed).mpr rfl,
      List.dropWhile_append_of_pos (forall_isSpace_map_plainChar.mpr front),
      plain.dropWhile_append signed]
  refine readInt_ok_iff_digitRun.mpr ⟨negated sign, written.map plainChar ++ trail.map plainChar,
    ds.map plainChar, trail.map plainChar, ?_, ?_, digitRun_append plain ?_, ?_, ?_, spaces, ?_⟩
  · rw [read]
    refine splitSign_append signed fun c head => ?_
    have digit := plain.head_append head
    constructor <;> rintro rfl <;> cases digit
  · intro head
    exact ne_mark_of_isDigit (plain.head_append head) rfl
  · intro c head
    have space := spaces c (List.mem_of_mem_head? head)
    refine ⟨?_, ?_⟩
    · rw [Bool.eq_false_iff]
      intro digit
      rw [isSpace_of_isDigit digit] at space
      cases space
    · rintro rfl
      cases space
  · simpa using short
  · simpa using plain.ne_nil
  · rw [signedValue, ofDigits_map_plainChar grouped.digits]

/-- **Texts that are integers.** A text is read as an integer exactly when it spells it. -/
theorem readInt_ok_iff {s : String} {n : Int} : readInt s = .ok n ↔ Spells s n :=
  ⟨spells_of_readInt, readInt_of_spells⟩

example : readInt " -٤_2 " = .ok (-42) := by rfl

example : readInt "4__2" = .error .malformed := by rfl

end IndexExplorer.Number
