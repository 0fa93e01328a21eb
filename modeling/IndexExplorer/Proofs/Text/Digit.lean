import IndexExplorer.Proofs.Url.Normal
import IndexExplorer.Text.Digit

/-!
Decimal digits of all scripts and those of ASCII.

* `isDigit_ascii_iff`: the digits of ASCII are those that are in ASCII;
* `plainDigit`: the digit of ASCII with the same value;
* `plainDigit_eq_iff`: no other character becomes one that is no digit.
-/
namespace IndexExplorer.Text

variable {c : Char}

/-- The digits of ASCII are those digits of all scripts that are in ASCII. -/
theorem isDigit_ascii_iff : c.isDigit ↔ isDigit c ∧ c.toNat < 0x80 := by
  have same : ∀ n : Fin 0x80, (Char.ofNat n.val).isDigit = isDigit (Char.ofNat n.val) := by decide
  have agree : c.toNat < 0x80 → c.isDigit = isDigit c :=
    Url.forall_ascii (p := fun c => c.isDigit = isDigit c) same
  constructor
  · intro h
    have ascii : c.toNat < 0x80 :=
      Url.ascii_of_isAlphanum (by simp [Char.isAlphanum, h])
    exact ⟨agree ascii ▸ h, ascii⟩
  · rintro ⟨h, ascii⟩
    exact (agree ascii).symm ▸ h

/-- A digit is one of the ten that begin with the zero of its script. -/
theorem digitValue?_eq_some {d : Nat} (h : digitValue? c = some d) :
    d < 10 ∧ ∃ first ∈ zeros, c.toNat = first + d := by
  unfold digitValue? at h
  dsimp only at h
  split at h
  · split at h
    · rename_i range
      simp only [Bool.and_eq_true, decide_eq_true_eq] at range
      have value : c.toNat - 0x30 = d := Option.some.inj h
      exact ⟨by omega, 0x30, List.mem_cons_self, by omega⟩
    · cases h
  · obtain ⟨first, found, rfl⟩ := Option.map_eq_some_iff.mp h
    have range := List.find?_some found
    simp only [Bool.and_eq_true, decide_eq_true_eq] at range
    exact ⟨by omega, first, List.mem_of_find?_eq_some found, by omega⟩

/-- No digit is blank. -/
theorem isBlank_of_isDigit (digit : isDigit c) : isBlank c = false := by
  obtain ⟨d, value⟩ := Option.isSome_iff_exists.mp digit
  obtain ⟨small, first, mem, place⟩ := digitValue?_eq_some value
  have each : ∀ first ∈ zeros, ∀ d : Fin 10, isBlank (Char.ofNat (first + d.val)) = false := by
    decide +kernel
  have blank := each first mem ⟨d, small⟩
  rwa [← place, Char.ofNat_toNat] at blank

/-! ## The digit of ASCII -/

/-- The digit of ASCII with the value of a digit; any other character is kept. -/
def plainDigit (c : Char) : Char :=
  match digitValue? c with
  | some d => Char.ofNat (48 + d)
  | none => c

theorem plainDigit_of_not (other : isDigit c = false) : plainDigit c = c := by
  have none : digitValue? c = none := by simpa [isDigit] using other
  simp [plainDigit, none]

theorem plainDigit_of_digitValue? {d : Nat} (value : digitValue? c = some d) :
    plainDigit c = Char.ofNat (48 + d) := by
  simp [plainDigit, value]

theorem plainDigit_of_ascii (ascii : c.toNat < 0x80) : plainDigit c = c := by
  have each : ∀ n : Fin 0x80, plainDigit (Char.ofNat n.val) = Char.ofNat n.val := by decide
  exact Url.forall_ascii (p := fun c => plainDigit c = c) each ascii

theorem isDigit_plainDigit : (plainDigit c).isDigit = isDigit c := by
  cases value : digitValue? c with
  | none =>
    have other : isDigit c = false := by simp [isDigit, value]
    rw [plainDigit_of_not other, other, Bool.eq_false_iff]
    intro digit
    rw [(isDigit_ascii_iff.mp digit).1] at other
    cases other
  | some d =>
    have each : ∀ d : Fin 10, (Char.ofNat (48 + d.val)).isDigit := by decide
    rw [plainDigit_of_digitValue? value, each ⟨d, (digitValue?_eq_some value).1⟩]
    simp [isDigit, value]

/-- What does not become a digit is kept. -/
theorem plainDigit_eq_self (other : (plainDigit c).isDigit = false) : plainDigit c = c := by
  rw [isDigit_plainDigit] at other
  exact plainDigit_of_not other

/-- Characters that are no digits come from themselves alone. -/
theorem eq_of_map_plainDigit {cs kept : List Char} (h : cs.map plainDigit = kept)
    (others : ∀ c ∈ kept, c.isDigit = false) : cs = kept := by
  subst h
  rw [List.forall_mem_map] at others
  have same : cs.map plainDigit = cs.map id :=
    List.map_congr_left fun c mem => plainDigit_eq_self (others c mem)
  rw [same, List.map_id]

end IndexExplorer.Text
