import IndexExplorer.Proofs.Number.Digits
import IndexExplorer.Proofs.Number.Shortest
import IndexExplorer.Proofs.Number.Spelling

/-!
The texts of doubles.

The text of a finite double is a decimal numeral of the strictest form. Its digits are those of the
decimal that was found for the double, and what is read from it is the double.

* `Tidy`: numerals that also documents may hold;
* `Numeral.value`: the exact value of a numeral;
* `Lays`, `exists_positional`, `exists_scientific`: both layouts of digits are numerals with their value;
* `write_spelling`: the text of a finite double is a tidy numeral that reads back.
-/
namespace IndexExplorer.Number

/-! ## Tidy numerals -/

/-- A numeral of ASCII with no plus sign in front, no needless zero there, and digits on both sides
of its point. -/
structure Spelling.Tidy (s : Spelling) : Prop where
  sound : s.Sound Char.isDigit
  sign : s.sign = [] ∨ s.sign = ['-']
  present : s.whole ≠ []
  front : ∀ tail, s.whole = '0' :: tail → tail = []
  fraction : s.fraction ≠ some []

/-- The exact value of a numeral without its sign. -/
def Numeral.value (n : Numeral) : ℚ :=
  ofDigits (n.whole ++ n.fraction) * 10 ^ (n.exponent - n.fraction.length)

/-- The digits of a positive number, without needless zeros in front. -/
structure Leading (ds : List Char) : Prop where
  digits : ∀ c ∈ ds, c.isDigit
  present : ds ≠ []
  front : ∀ tail, ds ≠ '0' :: tail

/-- A numeral without a sign lays digits out from a place on, with so many digits at most. -/
structure Lays (s : Spelling) (ds : List Char) (place : Int) (room : Nat) : Prop where
  tidy : s.Tidy
  sign : s.sign = []
  marked : ¬ s.IsInteger
  value : s.numeral.value = ofDigits ds * 10 ^ (place + 1 - ds.length)
  few : (s.whole ++ s.fraction.getD []).length ≤ room

variable {ds : List Char} {place : Int}

theorem digits_zeros (n : Nat) : ∀ c ∈ List.replicate n '0', c.isDigit := by
  intro c mem
  rw [(List.mem_replicate.mp mem).2]
  decide

/-- A numeral with a point and without a power lays out the digits that it has, zeros aside. -/
theorem lays_point (zeros : Nat) {whole fraction : List Char} (left : ∀ c ∈ whole, c.isDigit)
    (right : ∀ c ∈ fraction, c.isDigit) (present : whole ≠ [])
    (front : ∀ tail, whole = '0' :: tail → tail = []) (last : fraction ≠ [])
    (value : ofDigits (whole ++ fraction) = ofDigits ds * 10 ^ zeros)
    (exponent : (zeros : Int) - fraction.length = place + 1 - ds.length)
    {room : Nat} (few : (whole ++ fraction).length ≤ room) :
    Lays ⟨[], whole, some fraction, none⟩ ds place room := by
  refine ⟨⟨⟨.inl rfl, left, ?_, .inl present, nofun⟩, .inl rfl, present, front, ?_⟩, rfl, nofun, ?_,
    few⟩
  · rintro ds ⟨⟩
    exact right
  · rintro ⟨⟩
    exact last rfl
  · show (ofDigits (whole ++ fraction) : ℚ) * 10 ^ (0 - (fraction.length : ℤ)) = _
    rw [value, ← exponent, Nat.cast_mul, mul_assoc, Nat.cast_pow, ← zpow_natCast, Nat.cast_ofNat,
      ← zpow_add₀ (by norm_num), zero_sub, sub_eq_add_neg]

/-- The digits of a number below one. -/
theorem lays_below (leading : Leading ds) (negative : place < 0) :
    Lays ⟨[], ['0'], some (List.replicate (-place - 1).toNat '0' ++ ds), none⟩ ds place
      (ds.length + place.natAbs + 2) := by
  obtain ⟨digits, present, -⟩ := leading
  refine lays_point 0 ?_ ?_ (List.cons_ne_nil _ _) ?_ ?_ ?_ ?_ ?_
  · exact List.forall_mem_singleton.mpr (by decide)
  · exact List.forall_mem_append.mpr ⟨digits_zeros _, digits⟩
  · rintro tail ⟨⟩
    rfl
  · exact List.append_ne_nil_of_right_ne_nil _ present
  · rw [List.singleton_append, ← List.cons_append, ← List.replicate_succ, ofDigits_append,
      ofDigits_zeros]
    ring
  · rw [List.length_append, List.length_replicate]
    omega
  · rw [List.length_append, List.length_append, List.length_replicate, List.length_singleton]
    omega

/-- The digits of a whole number, with those that it lacks. -/
theorem lays_whole (leading : Leading ds) (short : ds.length ≤ place.toNat + 1) (nonneg : 0 ≤ place) :
    Lays ⟨[], ds ++ List.replicate (place.toNat + 1 - ds.length) '0', some ['0'], none⟩ ds place
      (ds.length + place.natAbs + 2) := by
  obtain ⟨digits, present, front⟩ := leading
  refine lays_point (place.toNat + 1 - ds.length + 1) ?_ ?_ ?_ ?_ (List.cons_ne_nil _ _)
    ?_ ?_ ?_
  · exact List.forall_mem_append.mpr ⟨digits, digits_zeros _⟩
  · exact List.forall_mem_singleton.mpr (by decide)
  · exact List.append_ne_nil_of_left_ne_nil present _
  · intro tail zero
    cases ds with
    | nil => exact absurd rfl present
    | cons c ds => exact absurd (by rw [(List.cons.inj zero).1]) (front ds)
  · rw [List.append_assoc, ← List.replicate_succ', ofDigits_append, ofDigits_zeros,
      List.length_replicate, Nat.add_zero]
  · rw [List.length_singleton]
    omega
  · rw [List.length_append, List.length_append, List.length_replicate, List.length_singleton]
    omega

/-- The digits of a number with a point between them. -/
theorem lays_between (leading : Leading ds) (long : place.toNat + 1 < ds.length) (nonneg : 0 ≤ place) :
    Lays ⟨[], ds.take (place.toNat + 1), some (ds.drop (place.toNat + 1)), none⟩ ds place
      (ds.length + place.natAbs + 2) := by
  obtain ⟨digits, present, front⟩ := leading
  refine lays_point 0 ?_ ?_ ?_ ?_ ?_ ?_ ?_ ?_
  · exact fun c mem => digits c (List.mem_of_mem_take mem)
  · exact fun c mem => digits c (List.mem_of_mem_drop mem)
  · simpa using present
  · intro tail zero
    cases ds with
    | nil => exact absurd rfl present
    | cons c ds =>
      rw [List.take_succ_cons] at zero
      exact absurd (by rw [(List.cons.inj zero).1]) (front ds)
  · simpa using long
  · rw [List.take_append_drop, Nat.pow_zero, Nat.mul_one]
  · rw [List.length_drop]
    omega
  · rw [List.take_append_drop]
    omega

theorem exists_positional (leading : Leading ds) (place : Int) :
    ∃ s : Spelling, Lays s ds place (ds.length + place.natAbs + 2) ∧
      s.unsigned = positional ds place := by
  unfold positional
  split
  · rename_i negative
    exact ⟨_, lays_below leading negative, by simp [Spelling.unsigned, fractionChars, powerChars]⟩
  · rename_i nonneg
    dsimp only
    split
    · rename_i short
      refine ⟨_, lays_whole leading short (not_lt.mp nonneg), ?_⟩
      rw [List.take_of_length_le short]
      simp [Spelling.unsigned, fractionChars, powerChars]
    · rename_i long
      refine ⟨_, lays_between leading (not_le.mp long) (not_lt.mp nonneg), ?_⟩
      rw [Nat.sub_eq_zero_of_le (not_le.mp long).le]
      simp [Spelling.unsigned, fractionChars, powerChars]

/-- The sign of the power of a numeral. -/
def powerSign (place : Int) : List Char := [if place < 0 then '-' else '+']

theorem isSign_powerSign (place : Int) : IsSign (powerSign place) := by
  unfold powerSign
  split
  · exact .inr (.inr rfl)
  · exact .inr (.inl rfl)

theorem exponentOf_power (width : Nat) (place : Int) :
    exponentOf (some ⟨'e', powerSign place, padded width place.natAbs⟩) = place := by
  rw [exponentOf, ofDigits_padded, powerSign]
  split
  · have minus : negated ['-'] = true := rfl
    rw [if_pos minus]
    omega
  · have plus : ¬ negated ['+'] = true := by decide
    rw [if_neg plus]
    omega

/-- Nothing, or the digits behind the point. -/
def fractionOf (ds : List Char) : Option (List Char) := if ds.isEmpty then none else some ds

theorem getD_fractionOf (ds : List Char) : (fractionOf ds).getD [] = ds := by
  cases ds with
  | nil => rfl
  | cons d ds => rfl

theorem exists_scientific (leading : Leading ds) (width : Nat) (place : Int) :
    ∃ s : Spelling, Lays s ds place ds.length ∧ s.unsigned = scientific width ds place := by
  obtain ⟨digits, present, front⟩ := leading
  cases ds with
  | nil => exact absurd rfl present
  | cons d tail =>
    have whole : ∀ c ∈ [d], c.isDigit := List.forall_mem_singleton.mpr (digits d List.mem_cons_self)
    refine ⟨⟨[], [d], fractionOf tail, some ⟨'e', powerSign place, padded width place.natAbs⟩⟩,
      ⟨⟨⟨.inl rfl, whole, ?_, .inl nofun, ?_⟩, .inl rfl, nofun, ?_, ?_⟩, rfl, nofun, ?_, ?_⟩, ?_⟩
    · intro ds same c mem
      have own := getD_fractionOf tail
      rw [show fractionOf tail = some ds from same, Option.getD_some] at own
      exact digits c (List.mem_cons_of_mem _ (own ▸ mem))
    · rintro p ⟨⟩
      exact ⟨.inl rfl, isSign_powerSign place, padded_ne_nil _ _, digits_padded _ _⟩
    · rintro tail ⟨⟩
      rfl
    · intro same
      cases tail with
      | nil => cases same
      | cons c tail => cases same
    · simp only [Numeral.value, Spelling.numeral, getD_fractionOf, exponentOf_power,
        List.singleton_append, List.length_cons]
      congr 2
      push_cast
      ring
    · simp only [getD_fractionOf, List.singleton_append, le_refl]
    · cases tail with
      | nil => rfl
      | cons c tail => simp [Spelling.unsigned, fractionChars, powerChars, scientific, fractionOf,
          powerSign]

/-! ## The digits of a decimal -/

/-- Digits in front of a run of zeros. -/
theorem exists_zeros_behind (ds : List Char) :
    ∃ k, ds = (ds.reverse.dropWhile (· == '0')).reverse ++ List.replicate k '0' := by
  refine ⟨(ds.reverse.takeWhile (· == '0')).length, ?_⟩
  have zeros : ds.reverse.takeWhile (· == '0') =
      List.replicate (ds.reverse.takeWhile (· == '0')).length '0' := by
    rw [List.eq_replicate_iff]
    exact ⟨rfl, fun c mem => by simpa using List.mem_takeWhile_imp mem⟩
  rw [← List.reverse_replicate, ← zeros, ← List.reverse_append, List.takeWhile_append_dropWhile,
    List.reverse_reverse]

/-- The digits of a decimal without its zeros behind have its value from their place on. -/
theorem significant_spec {d : Decimal} (positive : 0 < d.digits) :
    Leading d.significant.1 ∧ d.significant.1.length ≤ (Nat.toDigits 10 d.digits).length ∧
      (ofDigits d.significant.1 * 10 ^ (d.significant.2 + 1 - d.significant.1.length) : ℚ) =
        d.digits * 10 ^ d.exponent := by
  have digits := digits_toDigits d.digits
  have value := ofDigits_toDigits d.digits
  have written : Nat.toDigits 10 d.digits ≠ [] := Nat.toDigits_ne_nil
  have zero : ∀ tail, Nat.toDigits 10 d.digits ≠ '0' :: tail := by
    intro tail front
    rw [toDigits_head front] at front
    rw [front] at value
    exact positive.ne value
  unfold Decimal.significant
  dsimp only
  generalize Nat.toDigits 10 d.digits = ds at *
  obtain ⟨k, parts⟩ := exists_zeros_behind ds
  generalize (ds.reverse.dropWhile (· == '0')).reverse = kept at *
  have present : kept ≠ [] := by
    rintro rfl
    cases k with
    | zero => exact written parts
    | succ k => exact zero _ parts
  rw [if_neg (by simpa using present)]
  rw [parts, ofDigits_append, ofDigits_zeros, List.length_replicate, Nat.add_zero] at value
  have length : ds.length = kept.length + k := by
    rw [parts, List.length_append, List.length_replicate]
  refine ⟨⟨?_, present, ?_⟩, by omega, ?_⟩
  · exact fun c mem => digits c (parts ▸ List.mem_append_left _ mem)
  · rintro tail rfl
    exact zero _ parts
  · rw [← value, length]
    push_cast
    rw [mul_assoc, ← zpow_natCast, ← zpow_add₀ (by norm_num)]
    congr 2
    ring

/-! ## The text of a double -/

/-- A style that writes only numbers of a moderate size positionally. -/
structure FloatStyle.Moderate (style : FloatStyle) : Prop where
  least : -100 ≤ style.leastPositional
  most : style.endPositional ≤ 100

theorem moderate_plainStyle : plainStyle.Moderate := ⟨by decide, by decide⟩

theorem moderate_documentStyle : documentStyle.Moderate := ⟨by decide, by decide⟩

/-- A spelling of a double: a tidy numeral that is no integer and is read as the double. -/
structure Spelling.Of (x : Float) (s : Spelling) : Prop where
  tidy : s.Tidy
  marked : ¬ s.IsInteger
  reads : s.numeral.toFloat (negated s.sign) = x

/-- The sign of a double. -/
def signOf (x : Float) : List Char := if signed x then ['-'] else []

theorem signOf_cases (x : Float) : signOf x = [] ∨ signOf x = ['-'] := by
  unfold signOf
  split
  · exact .inr rfl
  · exact .inl rfl

theorem negated_signOf (x : Float) : negated (signOf x) = signed x := by
  unfold signOf
  cases signed x <;> rfl

variable {x : Float} {b : Binary}

theorem Spelling.Tidy.withSign {s : Spelling} (tidy : s.Tidy) (x : Float) :
    { s with sign := signOf x : Spelling }.Tidy := by
  obtain ⟨⟨-, whole, fraction, some, power⟩, -, present, front, last⟩ := tidy
  refine ⟨⟨?_, whole, fraction, some, power⟩, signOf_cases x, present, front, last⟩
  rcases signOf_cases x with e | e
  · exact .inl e
  · exact .inr (.inr e)

/-- Zero is spelt with the sign that it has. -/
theorem of_zero (h : size? x = some b) (zero : b.significand = 0) :
    Spelling.Of x ⟨signOf x, ['0'], some ['0'], none⟩ := by
  obtain ⟨sound, same⟩ := ofBits_bits h
  have bits : b.bits = 0 := by
    have leading := sound.leading
    have least := sound.least
    rw [Binary.bits, zero]
    simp only [zero, leadingBit] at leading ⊢
    omega
  have digit : ∀ c ∈ ['0'], c.isDigit := List.forall_mem_singleton.mpr (by decide)
  have tidy : (Spelling.mk [] ['0'] (some ['0']) none).Tidy := by
    refine ⟨⟨.inl rfl, digit, ?_, .inl (List.cons_ne_nil _ _), ?_⟩, .inl rfl, List.cons_ne_nil _ _,
      ?_, ?_⟩
    · rintro ds ⟨⟩
      exact digit
    · rintro p ⟨⟩
    · rintro tail ⟨⟩
      rfl
    · rintro ⟨⟩
  refine ⟨tidy.withSign x, ?_, ?_⟩
  · rintro ⟨⟨⟩, -⟩
  · rw [bits] at same
    rw [negated_signOf]
    exact same

/-- Digits that are laid out in a numeral of which the double takes the value spell the double. -/
theorem of_lays (h : size? x = some b) (nonzero : b.significand ≠ 0) {s : Spelling} {ds : List Char}
    {place : Int} {room : Nat} (lays : Lays s ds place room) (short : room ≤ 200)
    (takes : b.Takes (ofDigits ds * 10 ^ (place + 1 - ds.length))) :
    Spelling.Of x { s with sign := signOf x } := by
  obtain ⟨sound, same⟩ := ofBits_bits h
  obtain ⟨tidy, -, marked, value, few⟩ := lays
  refine ⟨tidy.withSign x, marked, ?_⟩
  have digits : ∀ c ∈ s.whole ++ s.fraction.getD [], c.isDigit := by
    refine List.forall_mem_append.mpr ⟨tidy.sound.whole, ?_⟩
    cases fraction : s.fraction with
    | none => exact nofun
    | some ds => exact tidy.sound.fraction ds fraction
  have small : ofDigits (s.whole ++ s.fraction.getD []) < 10 ^ 200 :=
    (ofDigits_lt digits).trans_le (Nat.pow_le_pow_right (by decide) (few.trans short))
  rw [← value] at takes
  rw [negated_signOf]
  exact (ofDecimal_eq sound nonzero takes small (signed x)).trans same

/-- **The text of a double.** The text of a finite double is a tidy numeral from which exactly the
double is read. -/
theorem write_spelling {style : FloatStyle} (moderate : style.Moderate) (h : size? x = some b) :
    ∃ s : Spelling, s.Of x ∧ (style.write x).toList = s.chars := by
  have text : (style.write x).toList = signOf x ++
      if b.significand = 0 then ['0', '.', '0']
      else if style.leastPositional ≤ (shortest b).significant.2 ∧
          (shortest b).significant.2 < style.endPositional then
        positional (shortest b).significant.1 (shortest b).significant.2
      else scientific style.exponentWidth (shortest b).significant.1
        (shortest b).significant.2 := by
    unfold FloatStyle.write signOf
    rw [h]
    dsimp only
    split <;> rw [String.toList_ofList]
  rw [text]
  by_cases zero : b.significand = 0
  · rw [if_pos zero]
    exact ⟨_, of_zero h zero, rfl⟩
  · rw [if_neg zero]
    obtain ⟨positive, few, takes⟩ := shortest_takes (ofBits_bits h).1 zero
    obtain ⟨leading, length, value⟩ := significant_spec positive
    have most : (Nat.toDigits 10 (shortest b).digits).length ≤ 18 := by
      rw [Nat.length_toDigits_le_iff (by decide) (by decide)]
      exact few.trans_lt (by decide)
    rw [← value] at takes
    generalize (shortest b).significant = laid at *
    obtain ⟨ds, place⟩ := laid
    dsimp only at *
    split
    · rename_i near
      obtain ⟨least, last⟩ := moderate
      obtain ⟨s, lays, unsigned⟩ := exists_positional leading place
      refine ⟨_, of_lays h zero lays (by omega) takes, ?_⟩
      rw [← unsigned]
      rfl
    · obtain ⟨s, lays, unsigned⟩ := exists_scientific leading style.exponentWidth place
      refine ⟨_, of_lays h zero lays (by omega) takes, ?_⟩
      rw [← unsigned]
      rfl

end IndexExplorer.Number
