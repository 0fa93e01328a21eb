import IndexExplorer.Proofs.Json.Standard

/-!
Doubles that are written and read again.

* `numberRest_unsigned`: a tidy numeral that is no integer is read as its double;
* `readsBack_of_isFinite`: so is the text of every finite double.
-/
namespace IndexExplorer.Json

open Number

variable {s : Spelling}

/-- The digits in front of the point of a tidy numeral are taken as a whole. -/
theorem takeWhole_unsigned (tidy : s.Tidy) {rest : List Char}
    (stop : ∀ c, rest.head? = some c → c.isDigit = false) :
    takeWhole (s.whole ++ rest) = some (s.whole, rest) := by
  obtain ⟨taken, left⟩ := Number.digits_append tidy.sound.whole stop
  unfold takeWhole
  split
  · rename_i tail front
    cases whole : s.whole with
    | nil => exact absurd whole tidy.present
    | cons c more =>
      rw [whole, List.cons_append] at front
      obtain ⟨rfl, behind⟩ := List.cons.inj front
      obtain rfl := tidy.front more whole
      rw [← behind, List.nil_append]
  · dsimp only
    rw [taken, left, if_neg (by simpa using tidy.present)]

theorem takeFraction_chars (tidy : s.Tidy) {rest : List Char}
    (stop : ∀ c, rest.head? = some c → c.isDigit = false ∧ c ≠ '.') :
    takeFraction (fractionChars s.fraction ++ rest) = (s.fraction.getD [], rest) := by
  cases fraction : s.fraction with
  | none =>
    cases rest with
    | nil => rfl
    | cons c rest => simp [takeFraction, fractionChars, (stop c rfl).2]
  | some ds =>
    have some : ds ≠ [] := by
      rintro rfl
      exact tidy.fraction fraction
    obtain ⟨taken, left⟩ := Number.digits_append (tidy.sound.fraction ds fraction)
      fun c head => (stop c head).1
    simp [takeFraction, fractionChars, taken, left, some]

theorem takeExponent_chars {power : Option Power}
    (sound : ∀ p, power = some p → p.Sound Char.isDigit) :
    takeExponent (powerChars power) = (power.map fun p => exponentOf (some p), []) := by
  cases power with
  | none => rfl
  | some p =>
    obtain ⟨mark, sign, present, digits⟩ := sound p rfl
    have unsigned : ∀ c, p.digits.head? = some c → c ≠ '+' ∧ c ≠ '-' := by
      intro c head
      have digit := digits c (List.mem_of_mem_head? head)
      constructor <;> rintro rfl <;> cases digit
    have marked : (p.mark = 'e' || p.mark = 'E') = true := by simpa using mark
    simp only [takeExponent, powerChars, marked, ↓reduceIte, Number.splitSign_append sign unsigned,
      List.takeWhile_eq_self_iff.mpr digits, List.dropWhile_eq_nil_iff.mpr digits, exponentOf,
      Option.map_some]
    rw [if_neg (by simpa using present)]

/-- A tidy numeral that is no integer is read as its double. -/
theorem numberRest_unsigned (tidy : s.Tidy) (marked : ¬ s.IsInteger) (negative : Bool) :
    numberRest negative s.unsigned = .ok (.float (s.numeral.toFloat negative), []) := by
  have power : ∀ c, (powerChars s.power).head? = some c → c.isDigit = false ∧ c ≠ '.' :=
    fun c => head_powerChars tidy.sound.power
  have whole := takeWhole_unsigned tidy
    fun c => head_fractionChars s.fraction fun c head => (power c head).1
  have exponent : (s.power.map fun p => exponentOf (some p)).getD 0 = exponentOf s.power := by
    cases s.power <;> rfl
  have kind : ((s.fraction.getD []).isEmpty &&
      (s.power.map fun p => exponentOf (some p)).isNone) = false := by
    rw [Bool.and_eq_false_iff]
    by_contra both
    rw [not_or, Bool.not_eq_false, Bool.not_eq_false, List.isEmpty_iff] at both
    refine marked ⟨?_, by simpa using both.2⟩
    cases fraction : s.fraction with
    | none => rfl
    | some ds =>
      rw [fraction, Option.getD_some] at both
      exact absurd (both.1 ▸ fraction) tidy.fraction
  simp only [numberRest, Spelling.unsigned, whole, takeFraction_chars tidy power,
    takeExponent_chars tidy.sound.power, kind, exponent]
  rfl

/-- The whole text of a tidy numeral that is no integer is read as its double. -/
theorem parseChars_chars_of_tidy (tidy : s.Tidy) (marked : ¬ s.IsInteger) :
    parseChars s.chars = .ok (.float (s.numeral.toFloat (negated s.sign))) := by
  obtain ⟨c, tail, front, digit⟩ : ∃ c tail, s.unsigned = c :: tail ∧ c.isDigit := by
    cases whole : s.whole with
    | nil => exact absurd whole tidy.present
    | cons c more =>
      exact ⟨c, _, by rw [Spelling.unsigned, whole, List.cons_append],
        tidy.sound.whole c (whole ▸ List.mem_cons_self)⟩
  have read := numberRest_unsigned tidy marked
  rw [front] at read
  have gapless : isGap c = false := by
    simp only [isGap, Bool.or_eq_false_iff, decide_eq_false_iff_not]
    refine ⟨⟨⟨?_, ?_⟩, ?_⟩, ?_⟩ <;> rintro rfl <;> cases digit
  rw [Spelling.chars, front]
  rcases tidy.sign with sign | sign
  · have start : skipGap ([] ++ c :: tail) = c :: tail := by simp [skipGap, gapless]
    rw [sign, parseChars, start, value_digit digit, read]
    rfl
  · have start : skipGap (['-'] ++ c :: tail) = '-' :: c :: tail := rfl
    have word : c ≠ 'I' := by
      rintro rfl
      cases digit
    rw [sign, parseChars, start, value_minus word, read]
    rfl

/-- The text of a finite double reads back. -/
theorem readsBack_of_isFinite {x : Float} (finite : Number.isFinite x) : ReadsBack x := by
  obtain ⟨b, size⟩ := Option.isSome_iff_exists.mp finite
  obtain ⟨s, ⟨tidy, marked, reads⟩, text⟩ := write_spelling moderate_documentStyle size
  rw [ReadsBack, parse, text, parseChars_chars_of_tidy tidy marked, reads]

end IndexExplorer.Json
