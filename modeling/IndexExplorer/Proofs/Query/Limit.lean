import IndexExplorer.Proofs.Query.Literal
import IndexExplorer.Proofs.Query.Meaning

/-!
Queries that are refused, and values that do not matter.

The value of each condition is made a literal before its operator is looked at. An integer of more
digits than are converted is refused there, for every operator, and nothing else is ever refused.

* `ofText_error_iff`, `ofFieldFilters_error_iff`: what is refused, for one condition and for a list;
* `ofFieldFilters_congr`: values that are not compared with anything do not matter;
* `compile_refuses_too_long`: both, for a query;
* `ignored_value_refused`: a value that does not matter is refused all the same.
-/
namespace IndexExplorer

open Number

namespace Literal

/-- The text is an integer of so many digits, which are too many. -/
def TooLong (v : String) (digits : Nat) : Prop :=
  ∃ s, Spells v s ∧ s.IsInteger ∧ s.whole.length = digits ∧ digitLimit < digits

variable {v : String}

theorem not_short_iff : ¬ Short v ↔ ∃ digits, TooLong v digits := by
  constructor
  · intro long
    simp only [Short, not_forall, Nat.not_le] at long
    obtain ⟨s, h, integer, long⟩ := long
    exact ⟨_, s, h, integer, rfl, long⟩
  · rintro ⟨_, s, h, integer, rfl, long⟩ short
    exact absurd long (Nat.not_lt.mpr (short s h integer))

/-- Only integers that are too long are refused. -/
theorem ofText_error_iff {p : Problem} :
    ofText v = .error p ↔ ∃ digits, TooLong v digits ∧ p = .badValue (.tooManyDigits digits) := by
  constructor
  · intro refused
    have long : ¬ Short v := by
      intro short
      rcases ofText_cases short with ⟨s, -, -, e⟩ | ⟨s, x, -, -, -, e⟩ | ⟨-, e⟩ <;>
        rw [refused] at e <;> cases e
    obtain ⟨digits, s, h, integer, size, limit⟩ := not_short_iff.mp long
    rw [ofText_of_integer h integer, size, if_pos limit] at refused
    exact ⟨digits, ⟨s, h, integer, size, limit⟩, (Except.error.inj refused).symm⟩
  · rintro ⟨_, ⟨s, h, integer, rfl, limit⟩, rfl⟩
    rw [ofText_of_integer h integer, if_pos limit]

theorem ofText_ok_iff : (∃ l, ofText v = .ok l) ↔ Short v := by
  constructor
  · rintro ⟨l, e⟩
    by_contra long
    obtain ⟨digits, tooLong⟩ := not_short_iff.mp long
    rw [ofText_error_iff.mpr ⟨digits, tooLong, rfl⟩] at e
    cases e
  · intro short
    rcases ofText_cases short with ⟨s, -, -, e⟩ | ⟨s, x, -, -, -, e⟩ | ⟨-, e⟩ <;> exact ⟨_, e⟩

end Literal

namespace Query

open Literal

/-! ## Conditions that are refused -/

variable {g g' : FieldFilter} {fs gs : List FieldFilter} {p : Problem}

theorem ofFieldFilter_error_iff : ofFieldFilter g = .error p ↔ ofText g.value = .error p := by
  cases literal : ofText g.value with
  | error e => simp [ofFieldFilter, literal, bind, Except.bind]
  | ok l => simp [ofFieldFilter, literal, bind, Except.bind, pure, Except.pure]

theorem ofFieldFilter_ok_iff : (∃ b, ofFieldFilter g = .ok b) ↔ Short g.value := by
  rw [← ofText_ok_iff]
  cases literal : ofText g.value with
  | error e => simp [ofFieldFilter, literal, bind, Except.bind]
  | ok l => simp [ofFieldFilter, literal, bind, Except.bind, pure, Except.pure]

/-- A list of conditions is refused for the first one that is. -/
theorem ofFieldFilters_error_iff :
    ofFieldFilters fs = .error p ↔ ∃ before g after, fs = before ++ g :: after ∧
      (∀ h ∈ before, Short h.value) ∧ ofText g.value = .error p := by
  induction fs with
  | nil =>
    constructor
    · rintro ⟨⟩
    · rintro ⟨before, g, after, split, -⟩
      exact absurd split (by simp)
  | cons first fs ih =>
    cases one : ofFieldFilter first with
    | error e =>
      have refused := ofFieldFilter_error_iff.mp one
      have long : ¬ Short first.value := by
        rw [← ofFieldFilter_ok_iff, one]
        rintro ⟨b, h⟩
        cases h
      simp only [ofFieldFilters, one, bind, Except.bind, Except.error.injEq]
      constructor
      · rintro rfl
        exact ⟨[], first, fs, rfl, List.forall_mem_nil _, refused⟩
      · rintro ⟨_ | ⟨b, before⟩, g, after, split, short, own⟩
        · obtain ⟨rfl, -⟩ := List.cons.inj split
          exact Except.error.inj (refused.symm.trans own)
        · obtain ⟨rfl, -⟩ := List.cons.inj split
          exact absurd (short first List.mem_cons_self) long
    | ok b =>
      have fits : Short first.value := ofFieldFilter_ok_iff.mp ⟨b, one⟩
      -- The first condition is not the refused one, so that it stands before it in any split.
      have step : ofFieldFilters (first :: fs) = .error p ↔ ofFieldFilters fs = .error p := by
        simp only [ofFieldFilters, one, bind, Except.bind]
        cases ofFieldFilters fs <;> simp [pure, Except.pure]
      rw [step, ih]
      constructor
      · rintro ⟨before, g, after, rfl, short, refused⟩
        exact ⟨first :: before, g, after, rfl, List.forall_mem_cons.mpr ⟨fits, short⟩, refused⟩
      · rintro ⟨_ | ⟨b, before⟩, g, after, split, short, refused⟩
        · obtain ⟨rfl, rfl⟩ := List.cons.inj split
          rw [← ofFieldFilter_error_iff, one] at refused
          cases refused
        · obtain ⟨rfl, rfl⟩ := List.cons.inj split
          exact ⟨before, g, after, rfl, (List.forall_mem_cons.mp short).2, refused⟩

/-! ## Values that do not matter -/

/-- The same condition, up to the value of one that only asks for its field to be present. -/
def SameButIgnored (g g' : FieldFilter) : Prop :=
  ∃ value, g' = { g with value := value } ∧ (g.operator ≠ .exist → value = g.value)

/-- A value that is ignored may be anything that is not refused. -/
def Fitting (g : FieldFilter) : Prop := g.operator = .exist → Short g.value

theorem ofFieldFilter_congr (same : SameButIgnored g g') (fits : Fitting g) (fits' : Fitting g') :
    ofFieldFilter g = ofFieldFilter g' := by
  obtain ⟨value, rfl, kept⟩ := same
  by_cases present : g.operator = .exist
  · obtain ⟨l, literal⟩ := ofText_ok_iff.mpr (fits present)
    obtain ⟨l', literal'⟩ := ofText_ok_iff.mpr (fits' present)
    dsimp only at literal'
    simp only [ofFieldFilter, literal, literal', bind, Except.bind, present]
  · rw [kept present]

theorem ofFieldFilters_congr (same : List.Forall₂ SameButIgnored fs gs)
    (fits : ∀ g ∈ fs ++ gs, Fitting g) : ofFieldFilters fs = ofFieldFilters gs := by
  induction same with
  | nil => rfl
  | @cons g g' fs gs same rest ih =>
    rw [List.cons_append, List.forall_mem_cons, List.forall_mem_append,
      List.forall_mem_cons] at fits
    obtain ⟨fit, left, fit', right⟩ := fits
    rw [ofFieldFilters, ofFieldFilters, ofFieldFilter_congr same fit fit',
      ih (List.forall_mem_append.mpr ⟨left, right⟩)]

/-- Two searches ask the same, up to values of conditions that only ask for their field to be
present. -/
structure Same (f f' : FilterState) : Prop where
  fixed : { f with fieldFilters := [] } = { f' with fieldFilters := [] }
  conditions : List.Forall₂ SameButIgnored f.fieldFilters f'.fieldFilters

theorem compile_error_iff {f : FilterState} {c : Connection} :
    compile f c = .error p ↔ ofFieldFilters f.fieldFilters = .error p := by
  cases conditions : ofFieldFilters f.fieldFilters <;>
    simp [compile, conditions, bind, Except.bind, pure, Except.pure]

theorem compile_congr {f f' : FilterState} (c : Connection) (same : Same f f')
    (fits : ∀ g ∈ f.fieldFilters ++ f'.fieldFilters, Fitting g) : compile f c = compile f' c := by
  obtain ⟨fixed, conditions⟩ := same
  have equal := ofFieldFilters_congr conditions fits
  obtain ⟨query, conditions, geo, size, offset⟩ := f
  obtain ⟨query', conditions', geo', size', offset'⟩ := f'
  cases fixed
  dsimp only at equal
  simp only [compile, equal]

/-- A query is refused exactly when one of its conditions has an integer that is too long for its
value, with the digits of the first such; values of conditions that only ask for their field to be
present do not matter, as long as none is too long. -/
theorem compile_refuses_too_long {f f' : FilterState} (c : Connection) (same : Same f f') :
    (∀ p, compile f c = .error p ↔ ∃ before g after digits, f.fieldFilters = before ++ g :: after ∧
      (∀ h ∈ before, Short h.value) ∧ TooLong g.value digits ∧
        p = .badValue (.tooManyDigits digits)) ∧
    ((∃ q, compile f c = .ok q) ↔ ∀ g ∈ f.fieldFilters, Short g.value) ∧
    ((∀ g ∈ f.fieldFilters ++ f'.fieldFilters, Fitting g) → compile f c = compile f' c) := by
  refine ⟨?refused, ?compiled, compile_congr c same⟩
  case refused =>
    intro p
    rw [compile_error_iff, ofFieldFilters_error_iff]
    constructor
    · rintro ⟨before, g, after, split, short, refused⟩
      obtain ⟨digits, long, rfl⟩ := ofText_error_iff.mp refused
      exact ⟨before, g, after, digits, split, short, long, rfl⟩
    · rintro ⟨before, g, after, digits, split, short, long, rfl⟩
      exact ⟨before, g, after, split, short, ofText_error_iff.mpr ⟨digits, long, rfl⟩⟩
  case compiled =>
    constructor
    · rintro ⟨q, h⟩ g mem
      obtain ⟨conditions, clauses, -⟩ := compile_eq_ok_iff.mp h
      exact ofText_ok_iff.mp ⟨_, (at_of_ofFieldFilters clauses).1 g mem⟩
    · intro short
      cases compiled : compile f c with
      | ok q => exact ⟨q, rfl⟩
      | error p =>
        obtain ⟨before, g, after, split, -, refused⟩ :=
          ofFieldFilters_error_iff.mp (compile_error_iff.mp compiled)
        obtain ⟨l, literal⟩ := ofText_ok_iff.mpr (short g (by simp [split]))
        rw [literal] at refused
        cases refused

/-- A search for entries that have a status, with a value that is ignored. -/
def withStatus (value : String) : FilterState :=
  { fieldFilters := [⟨"1", "status", .exist, value⟩] }

theorem same_withStatus (value value' : String) : Same (withStatus value) (withStatus value') :=
  ⟨rfl, .cons ⟨value', rfl, fun other => absurd rfl other⟩ .nil⟩

theorem compile_refuses_too_long_withStatus :
    Same (withStatus "1e5") (withStatus "") ∧
      compile (withStatus "1e5") {} = compile (withStatus "") {} ∧
      ∃ q, compile (withStatus "1e5") {} = .ok q := by
  have same := same_withStatus "1e5" ""
  have short : ∀ value, value = "1e5" ∨ value = "" → Short value := by
    rintro value (rfl | rfl) <;> exact short_of_length (by decide)
  obtain ⟨-, compiled, ignored⟩ := compile_refuses_too_long {} same
  refine ⟨same, ignored ?_, compiled.mpr ?_⟩
  · rintro g mem -
    rcases List.mem_append.mp mem with mem | mem
    · exact short _ (.inl (by rw [List.mem_singleton.mp mem]))
    · exact short _ (.inr (by rw [List.mem_singleton.mp mem]))
  · intro g mem
    exact short _ (.inl (by rw [List.mem_singleton.mp mem]))

/-- So many nines. -/
def nines (digits : Nat) : String := String.ofList (List.replicate digits '9')

theorem tooLong_nines {digits : Nat} (limit : digitLimit < digits) :
    TooLong (nines digits) digits := by
  have nine : ∀ c ∈ List.replicate digits '9', c = '9' := fun c mem => List.eq_of_mem_replicate mem
  have sound : (⟨[], List.replicate digits '9', none, none⟩ : Spelling).Sound Text.isDigit := by
    refine ⟨.inl rfl, fun c mem => ?_, nofun, .inl ?_, nofun⟩
    · rw [nine c mem]
      decide
    · rw [Ne, List.replicate_eq_nil_iff]
      omega
  have visible : ∀ c ∈ List.replicate digits '9', Text.isBlank c = false := by
    intro c mem
    rw [nine c mem]
    decide
  refine ⟨_, ⟨sound, ?_⟩, ⟨rfl, rfl⟩, List.length_replicate, limit⟩
  rw [Text.trim, String.toList_ofList, nines, String.toList_ofList,
    (Text.trimWhile_of_forall visible).2]
  simp [Spelling.chars, Spelling.unsigned, fractionChars, powerChars]

/-- A search is refused for a value that is ignored. -/
theorem ignored_value_refused :
    Same (withStatus (nines 4301)) (withStatus "") ∧
      compile (withStatus (nines 4301)) {} = .error (.badValue (.tooManyDigits 4301)) ∧
      ∃ q, compile (withStatus "") {} = .ok q := by
  refine ⟨same_withStatus _ _, ?_, ⟨_, rfl⟩⟩
  rw [compile_error_iff, ofFieldFilters_error_iff]
  refine ⟨[], _, [], rfl, nofun, ?_⟩
  exact ofText_error_iff.mpr ⟨4301, tooLong_nines (by decide), rfl⟩

end Query

end IndexExplorer
