import IndexExplorer.Json.Basic

/-!
The parts of a JSON value: how deep they are nested, and the value without those that are for
internal use.

* `withoutInternal_idem`: leaving out internal members again changes nothing;
* `depth_withoutInternal_le`: a value gets no deeper by it.
-/
namespace IndexExplorer.Json

mutual

/-- How many values stand inside each other, the innermost included. -/
def depth : Json → Nat
  | .arr vs => depthOfItems vs + 1
  | .obj ms => depthOfMembers ms + 1
  | _ => 1

/-- The depth of the deepest item. -/
def depthOfItems : List Json → Nat
  | [] => 0
  | v :: vs => max (depth v) (depthOfItems vs)

/-- The depth of the deepest member. -/
def depthOfMembers : List (String × Json) → Nat
  | [] => 0
  | (_, v) :: ms => max (depth v) (depthOfMembers ms)

end

/-- Members with such a name are for internal use. -/
def isInternal (name : String) : Bool := "_sa".toList.isPrefixOf name.toList

mutual

/-- The value without internal members, however deep. -/
def withoutInternal : Json → Json
  | .arr vs => .arr (itemsWithoutInternal vs)
  | .obj ms => .obj (membersWithoutInternal ms)
  | v => v

/-- The items without internal members. -/
def itemsWithoutInternal : List Json → List Json
  | [] => []
  | v :: vs => withoutInternal v :: itemsWithoutInternal vs

/-- The members that are not internal, each without those inside it. -/
def membersWithoutInternal : List (String × Json) → List (String × Json)
  | [] => []
  | (n, v) :: ms =>
    if isInternal n then membersWithoutInternal ms
    else (n, withoutInternal v) :: membersWithoutInternal ms

end

mutual

theorem withoutInternal_idem : ∀ v : Json, v.withoutInternal.withoutInternal = v.withoutInternal
  | .null | .bool _ | .int _ | .float _ | .str _ => by simp [withoutInternal]
  | .arr vs => by simp [withoutInternal, itemsWithoutInternal_idem vs]
  | .obj ms => by simp [withoutInternal, membersWithoutInternal_idem ms]

theorem itemsWithoutInternal_idem : ∀ vs : List Json,
    itemsWithoutInternal (itemsWithoutInternal vs) = itemsWithoutInternal vs
  | [] => by simp [itemsWithoutInternal]
  | v :: vs => by
    simp [itemsWithoutInternal, withoutInternal_idem v, itemsWithoutInternal_idem vs]

theorem membersWithoutInternal_idem : ∀ ms : List (String × Json),
    membersWithoutInternal (membersWithoutInternal ms) = membersWithoutInternal ms
  | [] => by simp [membersWithoutInternal]
  | (n, v) :: ms => by
    by_cases h : isInternal n <;>
      simp [membersWithoutInternal, h, withoutInternal_idem v, membersWithoutInternal_idem ms]

end

mutual

theorem depth_withoutInternal_le : ∀ v : Json, v.withoutInternal.depth ≤ v.depth
  | .null | .bool _ | .int _ | .float _ | .str _ => by simp [withoutInternal]
  | .arr vs => by
    simpa [withoutInternal, depth] using depthOfItems_withoutInternal_le vs
  | .obj ms => by
    simpa [withoutInternal, depth] using depthOfMembers_withoutInternal_le ms

theorem depthOfItems_withoutInternal_le : ∀ vs : List Json,
    depthOfItems (itemsWithoutInternal vs) ≤ depthOfItems vs
  | [] => by simp [itemsWithoutInternal]
  | v :: vs => by
    have hv := depth_withoutInternal_le v
    have hvs := depthOfItems_withoutInternal_le vs
    simp only [itemsWithoutInternal, depthOfItems]
    omega

theorem depthOfMembers_withoutInternal_le : ∀ ms : List (String × Json),
    depthOfMembers (membersWithoutInternal ms) ≤ depthOfMembers ms
  | [] => by simp [membersWithoutInternal]
  | (n, v) :: ms => by
    have hv := depth_withoutInternal_le v
    have hms := depthOfMembers_withoutInternal_le ms
    by_cases h : isInternal n
    · simp only [membersWithoutInternal, h, ↓reduceIte, depthOfMembers]
      omega
    · simp only [membersWithoutInternal, h, depthOfMembers, Bool.false_eq_true, ↓reduceIte]
      omega

end

end IndexExplorer.Json
