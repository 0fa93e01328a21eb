import IndexExplorer.Json.Basic
import IndexExplorer.Number.Binary64

/-!
Infinite doubles and NaN, which the standard's JSON cannot write: telling whether a value holds
one, and writing null in their place.

* `isFinite_finite`: none is left then;
* `finite_eq_self`: a value without any stays as it is.
-/
namespace IndexExplorer.Json

mutual

/-- No double in the value is infinite or a NaN. -/
def isFinite : Json → Bool
  | .float x => Number.isFinite x
  | .arr vs => areFinite vs
  | .obj ms => haveFinite ms
  | _ => true

/-- No double in the items is infinite or a NaN. -/
def areFinite : List Json → Bool
  | [] => true
  | v :: vs => isFinite v && areFinite vs

/-- No double in the members is infinite or a NaN. -/
def haveFinite : Members → Bool
  | [] => true
  | (_, v) :: ms => isFinite v && haveFinite ms

end

mutual

/-- The value with null for every double that is infinite or a NaN. -/
def finite : Json → Json
  | .float x => if Number.isFinite x then .float x else .null
  | .arr vs => .arr (finiteItems vs)
  | .obj ms => .obj (finiteMembers ms)
  | v => v

/-- The items with null for every double that is infinite or a NaN. -/
def finiteItems : List Json → List Json
  | [] => []
  | v :: vs => finite v :: finiteItems vs

/-- The members with null for every double that is infinite or a NaN. -/
def finiteMembers : Members → Members
  | [] => []
  | (n, v) :: ms => (n, finite v) :: finiteMembers ms

end

mutual

theorem isFinite_finite : ∀ v : Json, v.finite.isFinite = true
  | .null | .bool _ | .int _ | .str _ => by simp [finite, isFinite]
  | .float x => by
    by_cases h : Number.isFinite x <;> simp [finite, isFinite, h]
  | .arr vs => by simpa [finite, isFinite] using areFinite_finiteItems vs
  | .obj ms => by simpa [finite, isFinite] using haveFinite_finiteMembers ms

theorem areFinite_finiteItems : ∀ vs : List Json, areFinite (finiteItems vs) = true
  | [] => by simp [finiteItems, areFinite]
  | v :: vs => by
    simp [finiteItems, areFinite, isFinite_finite v, areFinite_finiteItems vs]

theorem haveFinite_finiteMembers : ∀ ms : Members, haveFinite (finiteMembers ms) = true
  | [] => by simp [finiteMembers, haveFinite]
  | (_, v) :: ms => by
    simp [finiteMembers, haveFinite, isFinite_finite v, haveFinite_finiteMembers ms]

end

mutual

theorem finite_eq_self : ∀ v : Json, v.isFinite = true → v.finite = v
  | .null, _ | .bool _, _ | .int _, _ | .str _, _ => by simp [finite]
  | .float x, h => by simp_all [finite, isFinite]
  | .arr vs, h => by simp [finite, finiteItems_eq_self vs (by simpa [isFinite] using h)]
  | .obj ms, h => by simp [finite, finiteMembers_eq_self ms (by simpa [isFinite] using h)]

theorem finiteItems_eq_self : ∀ vs : List Json, areFinite vs = true → finiteItems vs = vs
  | [], _ => by simp [finiteItems]
  | v :: vs, h => by
    obtain ⟨hv, hvs⟩ : v.isFinite = true ∧ areFinite vs = true := by simpa [areFinite] using h
    simp [finiteItems, finite_eq_self v hv, finiteItems_eq_self vs hvs]

theorem finiteMembers_eq_self : ∀ ms : Members, haveFinite ms = true → finiteMembers ms = ms
  | [], _ => by simp [finiteMembers]
  | (_, v) :: ms, h => by
    obtain ⟨hv, hms⟩ : v.isFinite = true ∧ haveFinite ms = true := by simpa [haveFinite] using h
    simp [finiteMembers, finite_eq_self v hv, finiteMembers_eq_self ms hms]

end

end IndexExplorer.Json
