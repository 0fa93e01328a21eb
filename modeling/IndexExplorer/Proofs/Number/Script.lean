import IndexExplorer.Proofs.Number.Spelling
import IndexExplorer.Proofs.Text.Digit
import IndexExplorer.Query.Literal

/-!
Numerals with the digits of any script.

A numeral with digits of other scripts is one of ASCII once each digit is replaced with the one of
ASCII that has its value, and no other text becomes a numeral that way. Both converters take every
numeral, except for integers that are too long.

* `sound_plain`, `exists_of_plain`: numerals of any script and those of ASCII;
* `readInt_chars`, `readFloat?_chars`: what the converters make of a numeral.
-/
namespace IndexExplorer.Number

open Text

/-! ## Numerals of ASCII -/

/-- A power with the digits of ASCII. -/
def Power.plain (p : Power) : Power := { p with digits := p.digits.map plainDigit }

/-- A numeral with the digits of ASCII. -/
def Spelling.plain (s : Spelling) : Spelling :=
  { s with
    whole := s.whole.map plainDigit
    fraction := s.fraction.map (·.map plainDigit)
    power := s.power.map Power.plain }

/-- The value of decimal digits of any script, the first being the most significant. -/
def decimal (ds : List Char) : Nat := ds.foldl (fun n c => n * 10 + (digitValue? c).getD 0) 0

/-- The integer that is spelt. -/
def Spelling.value (s : Spelling) : Int :=
  if negated s.sign then -(decimal s.whole : Int) else decimal s.whole

variable {ds cs : List Char} {s : Spelling}

theorem ofDigits_map_plainDigit (digits : ∀ c ∈ ds, isDigit c) :
    ofDigits (ds.map plainDigit) = decimal ds := by
  have each : ∀ d : Fin 10, (Char.ofNat (48 + d.val)).toNat - 48 = d.val := by decide
  have step : ∀ (n : Nat) (c : Char), c ∈ ds →
      n * 10 + ((plainDigit c).toNat - 48) = n * 10 + (digitValue? c).getD 0 := by
    intro n c mem
    obtain ⟨d, value⟩ := Option.isSome_iff_exists.mp (digits c mem)
    rw [plainDigit_of_digitValue? value, each ⟨d, (digitValue?_eq_some value).1⟩, value]
    rfl
  rw [ofDigits, decimal, List.foldl_map]
  exact List.foldl_ext _ _ 0 step

theorem digits_map_plainDigit (digits : ∀ c ∈ ds, isDigit c) :
    ∀ c ∈ ds.map plainDigit, c.isDigit := by
  rw [List.forall_mem_map]
  intro c mem
  rw [isDigit_plainDigit]
  exact digits c mem

theorem digits_of_map_plainDigit (digits : ∀ c ∈ ds.map plainDigit, c.isDigit) :
    ∀ c ∈ ds, isDigit c := by
  rw [List.forall_mem_map] at digits
  intro c mem
  rw [← isDigit_plainDigit]
  exact digits c mem

theorem isDigit_of_mem_marks {c : Char} (mem : c ∈ marks) : c.isDigit = false := by
  have each : ∀ c ∈ marks, c.isDigit = false := forall_mem_of_all (by decide)
  exact each c mem

theorem IsSign.map_plainDigit {sign : List Char} (h : IsSign sign) :
    sign.map plainDigit = sign := by
  rcases h with rfl | rfl | rfl <;> rfl

/-- A numeral of any script is one of ASCII with its digits replaced. -/
theorem sound_plain (sound : s.Sound isDigit) : s.plain.Sound Char.isDigit := by
  obtain ⟨sign, whole, fraction, present, power⟩ := sound
  refine ⟨sign, digits_map_plainDigit whole, ?_, ?_, ?_⟩
  · intro ds e
    obtain ⟨written, own, rfl⟩ := Option.map_eq_some_iff.mp e
    exact digits_map_plainDigit (fraction written own)
  · rcases present with some | ⟨ds, e, some⟩
    · exact .inl (by simpa [Spelling.plain] using some)
    · exact .inr ⟨ds.map plainDigit, by simp [Spelling.plain, e], by simpa using some⟩
  · intro p e
    obtain ⟨written, own, rfl⟩ := Option.map_eq_some_iff.mp e
    obtain ⟨mark, sign, present, digits⟩ := power written own
    exact ⟨mark, sign, by simpa [Power.plain] using present, digits_map_plainDigit digits⟩

theorem chars_plain (sound : s.Sound isDigit) : s.chars.map plainDigit = s.plain.chars := by
  have fraction : (fractionChars s.fraction).map plainDigit =
      fractionChars (s.fraction.map (·.map plainDigit)) := by
    cases s.fraction with
    | none => rfl
    | some ds => rfl
  have power : (powerChars s.power).map plainDigit = powerChars (s.power.map Power.plain) := by
    cases e : s.power with
    | none => rfl
    | some p =>
      obtain ⟨mark, sign, -, -⟩ := sound.power p e
      have mark : plainDigit p.mark = p.mark := by
        rcases mark with e | e <;> rw [e] <;> rfl
      simp [powerChars, Power.plain, mark, sign.map_plainDigit]
  simp only [Spelling.chars, Spelling.unsigned, List.map_append, fraction, power,
    sound.sign.map_plainDigit]
  rfl

theorem exists_fraction_of_plain {fraction : Option (List Char)}
    (h : cs.map plainDigit = fractionChars fraction) :
    ∃ written, fractionChars written = cs ∧ written.map (·.map plainDigit) = fraction := by
  cases fraction with
  | none =>
    obtain rfl := List.map_eq_nil_iff.mp h
    exact ⟨none, rfl, rfl⟩
  | some ds =>
    obtain ⟨point, written, rfl, mark, rfl⟩ := List.map_eq_cons_iff.mp h
    obtain rfl : point = '.' := by
      rw [← plainDigit_eq_self (c := point), mark]
      rw [mark]
      rfl
    exact ⟨some written, rfl, rfl⟩

theorem exists_power_of_plain {power : Option Power}
    (sound : ∀ p, power = some p → p.Sound Char.isDigit)
    (h : cs.map plainDigit = powerChars power) :
    ∃ written, (∀ p, written = some p → p.Sound isDigit) ∧ powerChars written = cs ∧
      written.map Power.plain = power := by
  cases power with
  | none =>
    obtain rfl := List.map_eq_nil_iff.mp h
    exact ⟨none, nofun, rfl, rfl⟩
  | some p =>
    obtain ⟨marked, signed, present, digits⟩ := sound p rfl
    obtain ⟨mark, sign, ds⟩ := p
    obtain ⟨own, rest, rfl, same, h⟩ := List.map_eq_cons_iff.mp h
    obtain ⟨front, written, rfl, e, rfl⟩ := List.map_eq_append_iff.mp h
    obtain rfl := eq_of_map_plainDigit e fun c mem => isDigit_of_mem_marks (signed.mem_marks c mem)
    obtain rfl : own = mark := by
      rw [← plainDigit_eq_self (c := own), same]
      rw [same]
      rcases marked with e | e <;> rw [e] <;> rfl
    refine ⟨some ⟨own, front, written⟩, ?_, rfl, ?_⟩
    · rintro p ⟨⟩
      exact ⟨marked, signed, by simpa using present, digits_of_map_plainDigit digits⟩
    · simp only [Option.map_some, Power.plain]

/-- A text that is a numeral of ASCII with its digits replaced is one as it stands. -/
theorem exists_of_plain {plain : Spelling} (sound : plain.Sound Char.isDigit)
    (h : cs.map plainDigit = plain.chars) :
    ∃ s : Spelling, s.Sound isDigit ∧ s.chars = cs ∧ s.plain = plain := by
  obtain ⟨signed, digits, behind, present, powered⟩ := sound
  obtain ⟨sign, whole, fraction, power⟩ := plain
  obtain ⟨front, rest, rfl, e, h⟩ := List.map_eq_append_iff.mp h
  obtain rfl := eq_of_map_plainDigit e fun c mem => isDigit_of_mem_marks (signed.mem_marks c mem)
  obtain ⟨whole, rest, rfl, rfl, h⟩ := List.map_eq_append_iff.mp h
  obtain ⟨f, p, rfl, middle, last⟩ := List.map_eq_append_iff.mp h
  obtain ⟨fraction, rfl, rfl⟩ := exists_fraction_of_plain middle
  obtain ⟨power, powers, rfl, rfl⟩ := exists_power_of_plain powered last
  refine ⟨⟨front, whole, fraction, power⟩,
    ⟨signed, digits_of_map_plainDigit digits, ?_, ?_, powers⟩, rfl, rfl⟩
  · rintro ds rfl
    exact digits_of_map_plainDigit (behind _ rfl)
  · rcases present with some | ⟨ds, e, some⟩
    · exact .inl (by simpa using some)
    · obtain ⟨written, own, rfl⟩ := Option.map_eq_some_iff.mp e
      exact .inr ⟨written, own, by simpa using some⟩

/-! ## The converters -/

/-- What is written in a numeral is for the converters what it is in ASCII. -/
theorem plainChars_chars (sound : s.Sound isDigit) : plainChars s.chars = s.plain.chars := by
  rw [← chars_plain sound]
  refine List.map_congr_left fun c mem => ?_
  split
  · rename_i ascii
    exact (plainDigit_of_ascii (Nat.lt_trans ascii (by decide))).symm
  · rename_i other
    rcases mem_chars sound mem with digit | mark
    · obtain ⟨d, value⟩ := Option.isSome_iff_exists.mp digit
      rw [isBlank_of_isDigit digit, plainDigit_of_digitValue? value, value]
      rfl
    · have ascii : ∀ c ∈ marks, c.toNat < 0x7f := forall_mem_of_all (by decide)
      exact absurd (ascii c mark) other

/-- Nothing in a numeral of ASCII is a blank or an underscore or in the name of a number. -/
theorem not_mem_chars (sound : s.Sound Char.isDigit) {c : Char} (mem : c ∈ s.chars) :
    isSpace c = false ∧ c ≠ '_' ∧ c.toLower ≠ 'n' := by
  rcases mem_chars sound mem with digit | mark
  · have each : ∀ n : Fin 0x80, (Char.ofNat n.val).isDigit = true →
        isSpace (Char.ofNat n.val) = false ∧ Char.ofNat n.val ≠ '_' ∧
          (Char.ofNat n.val).toLower ≠ 'n' := by decide
    exact Url.forall_ascii (p := fun c => c.isDigit = true →
      isSpace c = false ∧ c ≠ '_' ∧ c.toLower ≠ 'n') each (isDigit_ascii_iff.mp digit).2 digit
  · have each : ∀ c ∈ marks, isSpace c = false ∧ c ≠ '_' ∧ c.toLower ≠ 'n' :=
      forall_mem_of_all (by decide)
    exact each c mark

theorem digitRun_of_digits (afterMark : Bool) (digits : ∀ c ∈ ds, c.isDigit) (some : ds ≠ []) :
    digitRun ds afterMark = .some (ds, []) := by
  induction ds generalizing afterMark with
  | nil => exact absurd rfl some
  | cons c ds ih =>
    obtain ⟨digit, digits⟩ := List.forall_mem_cons.mp digits
    have mark : c ≠ '_' := by
      rintro rfl
      cases digit
    rw [digitRun, if_neg mark, if_pos digit]
    cases ds with
    | nil => rfl
    | cons d ds =>
      rw [ih false digits (List.cons_ne_nil _ _)]
      rfl

theorem dropMarks_of_forall {before : Option Char} (none : ∀ c ∈ cs, c ≠ '_') :
    dropMarks before cs = some cs := by
  induction cs generalizing before with
  | nil => rfl
  | cons c cs ih =>
    obtain ⟨mark, rest⟩ := List.forall_mem_cons.mp none
    unfold dropMarks
    rw [if_neg mark, ih rest]
    rfl

/-- An integer is converted unless it is too long. -/
theorem readInt_chars {t : String} (sound : s.Sound isDigit) (integer : s.IsInteger)
    (text : t.toList = s.chars) :
    readInt t = if digitLimit < s.whole.length then .error (.tooLong s.whole.length)
      else .ok s.value := by
  have plain := sound_plain sound
  have digits : s.plain.unsigned = s.whole.map plainDigit := by
    obtain ⟨fraction, power⟩ := integer
    simp [Spelling.unsigned, Spelling.plain, fraction, power, fractionChars, powerChars]
  have some : s.whole ≠ [] := by
    rcases sound.present with some | ⟨ds, e, -⟩
    · exact some
    · rw [integer.1] at e
      cases e
  have spaces : ∀ c ∈ s.plain.chars, isSpace c = false := fun c mem => (not_mem_chars plain mem).1
  unfold readInt
  rw [text, plainChars_chars sound, (trimWhile_of_forall spaces).1, splitSign_chars plain, digits]
  have run := digitRun_of_digits false (digits_map_plainDigit sound.whole)
    (by simpa using some)
  have mark : (s.whole.map plainDigit).head? ≠ .some '_' := by
    intro head
    have digit := digits_map_plainDigit sound.whole '_' (List.mem_of_mem_head? head)
    cases digit
  dsimp only
  split
  · rename_i head
    exact absurd head mark
  · simp only [run, List.length_map, List.isEmpty_map, List.all_nil,
      ofDigits_map_plainDigit sound.whole]
    split
    · rfl
    · rw [if_neg (by simpa using some)]
      rfl

/-- Every numeral is converted to a double. -/
theorem readFloat?_chars {t : String} (sound : s.Sound isDigit) (text : t.toList = s.chars) :
    readFloat? t = some (s.plain.numeral.toFloat (negated s.sign)) := by
  have plain := sound_plain sound
  have each := fun c (mem : c ∈ s.plain.chars) => not_mem_chars plain mem
  unfold readFloat?
  rw [text, plainChars_chars sound, (trimWhile_of_forall fun c mem => (each c mem).1).2,
    dropMarks_of_forall fun c mem => (each c mem).2.1, Option.bind_some, parseFloat?,
    splitSign_chars plain]
  -- All names of numbers have an n in them, which no numeral has.
  have named : ∀ name : String, 'n' ∈ name.toList →
      String.ofList (s.plain.unsigned.map Char.toLower) ≠ name := by
    rintro name mem rfl
    rw [String.toList_ofList] at mem
    obtain ⟨c, mem, lower⟩ := List.mem_map.mp mem
    exact (each c (List.mem_append_right _ mem)).2.2 lower
  have inf := named "inf" (by decide)
  have infinity := named "infinity" (by decide)
  have nan := named "nan" (by decide)
  simp only [inf, infinity, nan, decide_false, Bool.or_self, Bool.false_eq_true, ↓reduceIte,
    takeNumeral_unsigned plain]
  rfl

end IndexExplorer.Number
