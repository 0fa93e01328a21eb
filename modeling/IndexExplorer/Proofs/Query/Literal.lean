import IndexExplorer.Proofs.Number.Script

/-!
What the value of a condition stands for.

The text of a condition is looked at three times: for its form, for a point or the mark of a power
in it, and by the converter to an integer or a double. All three agree on every text.

* `Spells`: the text, blanks around it aside, is a numeral;
* `ofText_of_integer`, `ofText_of_real`, `ofText_of_other`: the literal of each kind of text;
* `ofText_follows_grammar`: integers and doubles are exactly what is spelt as such, and whatever is
  no numeral stays as it is.
-/
namespace IndexExplorer.Literal

open Number Text

/-- The text, blanks around it aside, is the numeral that is spelt. -/
def Spells (v : String) (s : Spelling) : Prop := s.Sound isDigit ∧ (trim v).toList = s.chars

/-- The text is no integer that is too long. -/
def Short (v : String) : Prop :=
  ∀ s, Spells v s → s.IsInteger → s.whole.length ≤ digitLimit

variable {v : String} {s : Spelling}

theorem short_of_length (h : (trim v).toList.length ≤ digitLimit) : Short v := by
  rintro s ⟨-, text⟩ -
  have whole : s.whole.length ≤ s.chars.length := by
    simp only [Spelling.chars, Spelling.unsigned, List.length_append]
    omega
  rw [text] at h
  exact Nat.le_trans whole h

/-! ## The form of a text -/

/-- A numeral with a point or the mark of a power is no integer. -/
theorem hasFractionMark_unsigned (sound : s.Sound Char.isDigit) :
    hasFractionMark s.unsigned = true ↔ ¬ s.IsInteger := by
  constructor
  · rintro marked ⟨fraction, power⟩
    obtain ⟨c, mem, mark⟩ := List.any_eq_true.mp marked
    rw [Spelling.unsigned, fraction, power, fractionChars, powerChars, List.append_nil,
      List.append_nil] at mem
    have digit := sound.whole c mem
    simp only [Bool.or_eq_true, decide_eq_true_eq] at mark
    rcases mark with (rfl | rfl) | rfl <;> cases digit
  · intro other
    rw [hasFractionMark, List.any_eq_true]
    cases fraction : s.fraction with
    | some ds =>
      refine ⟨'.', ?_, by decide⟩
      rw [Spelling.unsigned, fraction, fractionChars]
      simp
    | none =>
      cases power : s.power with
      | none => exact absurd ⟨fraction, power⟩ other
      | some p =>
        refine ⟨p.mark, ?_, ?_⟩
        · rw [Spelling.unsigned, power, powerChars]
          simp
        · rcases (sound.power p power).mark with e | e <;> rw [e] <;> decide

theorem isInteger_plain_iff : s.plain.IsInteger ↔ s.IsInteger := by
  simp [Spelling.IsInteger, Spelling.plain]

/-- What is left of a numeral when it has been read. -/
theorem read_of_spells (h : Spells v s) :
    splitSign (asciiDigits (trim v).toList) = (negated s.sign, s.plain.unsigned) ∧
      takeNumeral s.plain.unsigned = some (s.plain.numeral, []) := by
  obtain ⟨sound, text⟩ := h
  have plain := sound_plain sound
  have ascii : asciiDigits s.chars = s.plain.chars := chars_plain sound
  rw [text, ascii, splitSign_chars plain]
  exact ⟨rfl, takeNumeral_unsigned plain⟩

/-! ## The literal of a text -/

theorem ofText_of_integer (h : Spells v s) (integer : s.IsInteger) :
    ofText v = if digitLimit < s.whole.length then
        .error (.badValue (.tooManyDigits s.whole.length))
      else .ok (.whole s.value) := by
  obtain ⟨split, read⟩ := read_of_spells h
  have unmarked : hasFractionMark s.plain.unsigned = false := by
    rw [Bool.eq_false_iff, Ne, hasFractionMark_unsigned (sound_plain h.1), isInteger_plain_iff]
    exact fun other => other integer
  have size : s.plain.numeral.whole.length = s.whole.length := List.length_map _
  have value : ofDigits s.plain.numeral.whole = decimal s.whole :=
    ofDigits_map_plainDigit h.1.whole
  unfold ofText
  rw [split]
  simp only [read, unmarked, size, value]
  rfl

theorem ofText_of_real (h : Spells v s) (other : ¬ s.IsInteger) :
    ∃ x, readFloat? (trim v) = some x ∧
      ofText v = .ok (if isFinite x then .real x else .text v) := by
  obtain ⟨split, read⟩ := read_of_spells h
  have marked : hasFractionMark s.plain.unsigned = true := by
    rwa [hasFractionMark_unsigned (sound_plain h.1), isInteger_plain_iff]
  refine ⟨_, readFloat?_chars h.1 h.2, ?_⟩
  unfold ofText
  rw [split]
  simp only [read, marked, ↓reduceIte]

/-- A text that is no numeral stands for itself. -/
theorem ofText_of_other (none : ∀ s, ¬ Spells v s) : ofText v = .ok (.text v) := by
  unfold ofText
  obtain ⟨sign, signed, text, negative⟩ := exists_sign (asciiDigits (trim v).toList)
  dsimp only
  split
  · rename_i n read
    exfalso
    -- What is read is spelt with digits of ASCII; the text has digits with the same values.
    obtain ⟨s, sound, unsigned, rest, -⟩ := exists_spelling read
    have plain : ({ s with sign := sign } : Spelling).Sound Char.isDigit :=
      ⟨signed, sound.whole, sound.fraction, sound.present, sound.power⟩
    have chars : (trim v).toList.map plainDigit = ({ s with sign := sign } : Spelling).chars :=
      text.trans (congrArg (sign ++ ·) rest.symm)
    obtain ⟨written, sound, spelt, -⟩ := exists_of_plain plain chars
    exact none written ⟨sound, spelt.symm⟩
  · rfl

theorem ofText_of_short (short : Short v) (h : Spells v s) (integer : s.IsInteger) :
    ofText v = .ok (.whole s.value) := by
  rw [ofText_of_integer h integer, if_neg (Nat.not_lt.mpr (short s h integer))]

/-- A text is an integer, another numeral or none. -/
theorem ofText_cases (short : Short v) :
    (∃ s, Spells v s ∧ s.IsInteger ∧ ofText v = .ok (.whole s.value)) ∨
    (∃ s x, Spells v s ∧ ¬ s.IsInteger ∧ readFloat? (trim v) = some x ∧
      ofText v = .ok (if isFinite x then .real x else .text v)) ∨
    (∀ s, ¬ Spells v s) ∧ ofText v = .ok (.text v) := by
  by_cases spelt : ∃ s, Spells v s
  · obtain ⟨s, h⟩ := spelt
    by_cases integer : s.IsInteger
    · exact .inl ⟨s, h, integer, ofText_of_short short h integer⟩
    · obtain ⟨x, read, literal⟩ := ofText_of_real h integer
      exact .inr (.inl ⟨s, x, h, integer, read, literal⟩)
  · have none : ∀ s, ¬ Spells v s := fun s h => spelt ⟨s, h⟩
    exact .inr (.inr ⟨none, ofText_of_other none⟩)

theorem ofText_whole_iff (short : Short v) (n : Int) :
    ofText v = .ok (.whole n) ↔ ∃ s, Spells v s ∧ s.IsInteger ∧ s.value = n := by
  constructor
  · intro literal
    rcases ofText_cases short with ⟨s, h, integer, e⟩ | ⟨s, x, -, -, -, e⟩ | ⟨-, e⟩
    · rw [e] at literal
      cases literal
      exact ⟨s, h, integer, rfl⟩
    · rw [e] at literal
      split at literal <;> cases literal
    · rw [e] at literal
      cases literal
  · rintro ⟨s, h, integer, rfl⟩
    exact ofText_of_short short h integer

theorem ofText_real_iff (short : Short v) (x : Float) :
    ofText v = .ok (.real x) ↔
      (∃ s, Spells v s ∧ ¬ s.IsInteger) ∧ readFloat? (trim v) = some x ∧ isFinite x := by
  constructor
  · intro literal
    rcases ofText_cases short with ⟨s, -, -, e⟩ | ⟨s, y, h, other, read, e⟩ | ⟨-, e⟩
    · rw [e] at literal
      cases literal
    · rw [e] at literal
      split at literal
      · rename_i finite
        cases literal
        exact ⟨⟨s, h, other⟩, read, finite⟩
      · cases literal
    · rw [e] at literal
      cases literal
  · rintro ⟨⟨s, h, other⟩, read, finite⟩
    obtain ⟨y, same, literal⟩ := ofText_of_real h other
    obtain rfl : y = x := Option.some.inj (same.symm.trans read)
    rw [literal, if_pos finite]

theorem ofText_text_iff (short : Short v) (t : String) :
    ofText v = .ok (.text t) ↔ t = v ∧ ∀ s, Spells v s →
      ¬ s.IsInteger ∧ ∀ x, readFloat? (trim v) = some x → ¬ isFinite x := by
  constructor
  · intro literal
    have others : ∀ s, Spells v s → ¬ s.IsInteger := by
      intro s h integer
      rw [ofText_of_short short h integer] at literal
      cases literal
    rcases ofText_cases short with ⟨s, h, integer, -⟩ | ⟨s, x, h, -, read, e⟩ | ⟨none, e⟩
    · exact absurd integer (others s h)
    · rw [e] at literal
      split at literal
      · cases literal
      · rename_i infinite
        cases literal
        refine ⟨rfl, fun s h => ⟨others s h, fun y again => ?_⟩⟩
        obtain rfl : x = y := Option.some.inj (read.symm.trans again)
        exact infinite
    · rw [e] at literal
      cases literal
      exact ⟨rfl, fun s h => absurd h (none s)⟩
  · rintro ⟨rfl, others⟩
    rcases ofText_cases short with ⟨s, h, integer, -⟩ | ⟨s, x, h, -, read, e⟩ | ⟨-, e⟩
    · exact absurd integer (others s h).1
    · rw [e, if_neg ((others s h).2 x read)]
    · exact e

/-- An integer is what an optional sign and digits spell, with the value of their digits whatever
its size; a double is what is spelt with a point or a power and is converted to a finite one; and
all else stands for itself, blanks included. The converters take every numeral. -/
theorem ofText_follows_grammar (v : String) (short : Short v) :
    (∃ l, ofText v = .ok l) ∧
    (∀ n, ofText v = .ok (.whole n) ↔ ∃ s, Spells v s ∧ s.IsInteger ∧ s.value = n) ∧
    (∀ x, ofText v = .ok (.real x) ↔
      (∃ s, Spells v s ∧ ¬ s.IsInteger) ∧ readFloat? (trim v) = some x ∧ isFinite x) ∧
    (∀ t, ofText v = .ok (.text t) ↔ t = v ∧ ∀ s, Spells v s →
      ¬ s.IsInteger ∧ ∀ x, readFloat? (trim v) = some x → ¬ isFinite x) ∧
    ∀ s, Spells v s →
      (s.IsInteger → readInt (trim v) = .ok s.value) ∧ ∃ x, readFloat? (trim v) = some x := by
  refine ⟨?literal, ofText_whole_iff short, ofText_real_iff short, ofText_text_iff short,
    ?converters⟩
  case literal =>
    rcases ofText_cases short with ⟨s, -, -, e⟩ | ⟨s, x, -, -, -, e⟩ | ⟨-, e⟩
    · exact ⟨_, e⟩
    · exact ⟨_, e⟩
    · exact ⟨_, e⟩
  case converters =>
    rintro s ⟨sound, text⟩
    refine ⟨fun integer => ?_, _, readFloat?_chars sound text⟩
    rw [readInt_chars sound integer text, if_neg]
    exact Nat.not_lt.mpr (short s ⟨sound, text⟩ integer)

/-- A negative number with a digit of another script in it. -/
def minusTwelve : Spelling := ⟨['-'], ['\u0661', '2'], none, none⟩

theorem spells_minusTwelve : Spells " -\u06612\n" minusTwelve := by
  have digits : ∀ c ∈ minusTwelve.whole, isDigit c := forall_mem_of_all (by decide)
  exact ⟨⟨.inr (.inr rfl), digits, nofun, .inl (by decide), nofun⟩, by decide⟩

theorem ofText_follows_grammar_minusTwelve :
    Short " -\u06612\n" ∧ ofText " -\u06612\n" = .ok (.whole (-12)) ∧
      ofText " -\u06612\n" ≠ .ok (.text " -\u06612\n") := by
  have short : Short " -\u06612\n" := short_of_length (by decide)
  obtain ⟨-, whole, -, text, -⟩ := ofText_follows_grammar _ short
  refine ⟨short, (whole (-12)).mpr ⟨minusTwelve, spells_minusTwelve, ⟨rfl, rfl⟩, by decide⟩, ?_⟩
  intro same
  exact (((text _).mp same).2 minusTwelve spells_minusTwelve).1 ⟨rfl, rfl⟩

example : ofText " 1_000" = .ok (.text " 1_000") := by rfl

end IndexExplorer.Literal
