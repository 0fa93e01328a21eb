import IndexExplorer.Proofs.Answer.Tree
import IndexExplorer.Proofs.Named

/-!
The leaves of a tree of fields, in the order in which flattening finds them.

* `follow`: the field that names lead to, from a field down through the blocks of properties;
* `Earlier`: the order of the blocks, of a field before what stands behind it;
* `IsField`: the trees that can be flattened, with each name of a block there once;
* `Lists`, `exists_lists`: flattening such a tree lists each of its leaves once, in this order, and
  nothing else.
-/
namespace IndexExplorer.Mapping

/-! ## Trees -/

/-- The fields in the block of properties of a field. -/
def blockOf : Json → Members
  | .obj ms =>
    match Named.get? ms "properties" with
    | some (.obj fields) => fields
    | _ => []
  | _ => []

/-- A field without a block of properties. -/
def IsLeaf : Json → Prop
  | .obj ms => Named.get? ms "properties" = none
  | _ => True

/-- The declared type of a field. -/
def typeOf : Json → Option String
  | .obj ms =>
    match Members.getOrNull ms "type" with
    | .str type => some type
    | _ => none
  | _ => none

/-- The field that names lead to, from a field. -/
def follow (field : Json) : List String → Option Json
  | [] => some field
  | name :: names => ((blockOf field).get? name).bind fun next => follow next names

/-- The field that names lead to, from a block. -/
def followIn (fields : Members) : List String → Option Json
  | [] => none
  | name :: names => (fields.get? name).bind fun next => follow next names

/-- From a field, the first names lead to something that comes before what the second names lead to:
of the first two names that differ, the first stands before the second in its block. -/
def Earlier (field : Json) : List String → List String → Prop
  | n :: ns, m :: ms =>
    [n, m].Sublist ((blockOf field).map (·.1)) ∨
      n = m ∧ ∃ next, (blockOf field).get? n = some next ∧ Earlier next ns ms
  | _, _ => False

/-- The same, from a block. -/
def EarlierIn (fields : Members) : List String → List String → Prop
  | n :: ns, m :: ms =>
    [n, m].Sublist (fields.map (·.1)) ∨
      n = m ∧ ∃ next, fields.get? n = some next ∧ Earlier next ns ms
  | _, _ => False

/-- The fields that can be flattened, in whose blocks each name is there once and is fine: nothing
at all, leaves whose type is a text if they have one, and fields with a block of properties, which
is empty or an object of such fields. -/
inductive IsField (fine : String → Prop) : Json → Prop
  | none {v : Json} : v.given = false → IsField fine v
  | leaf {ms : Members} : ms.get? "properties" = .none →
      ms.getOrNull "type" = .null ∨ (∃ type, ms.getOrNull "type" = .str type) →
      IsField fine (.obj ms)
  | bare {ms : Members} {v : Json} : ms.get? "properties" = some v → v.given = false →
      IsField fine (.obj ms)
  | block {ms fields : Members} : ms.get? "properties" = some (.obj fields) →
      (fields.map (·.1)).Nodup → (∀ e ∈ fields, fine e.1) → (∀ e ∈ fields, IsField fine e.2) →
      IsField fine (.obj ms)

/-- A block of such fields. -/
structure IsTree (fine : String → Prop) (fields : Members) : Prop where
  distinct : (fields.map (·.1)).Nodup
  named : ∀ e ∈ fields, fine e.1
  fields : ∀ e ∈ fields, IsField fine e.2

variable {fine : String → Prop} {field last : Json} {fields : Members} {names : List String}

/-! ## Lists of leaves -/

/-- The definition of a leaf that names lead to, from a path on. -/
def definition (path : String) (entry : List String × Json) : FieldDefinition :=
  ⟨entry.1.foldl join path, typeOf entry.2⟩

/-- The leaves from a field on, each once and in order, are what flattening finds. -/
structure Lists (field : Json) (leaves : List (List String × Json)) : Prop where
  mem : ∀ names leaf, (names, leaf) ∈ leaves ↔ follow field names = some leaf ∧ IsLeaf leaf
  ordered : leaves.Pairwise fun a b => Earlier field a.1 b.1
  flattened : ∀ path, flattenField path field = .ok (leaves.map (definition path))

/-- The same, from a block on. -/
structure ListsAll (fields : Members) (leaves : List (List String × Json)) : Prop where
  mem : ∀ names leaf, (names, leaf) ∈ leaves ↔ followIn fields names = some leaf ∧ IsLeaf leaf
  ordered : leaves.Pairwise fun a b => EarlierIn fields a.1 b.1
  flattened : ∀ path, flattenFields path fields = .ok (leaves.map (definition path))

theorem mem_names_of_get? {name : String} (found : fields.get? name = some field) :
    name ∈ fields.map (·.1) := Named.mem_names_iff.mpr (by rw [found]; rfl)

theorem ListsAll.nil : ListsAll [] [] where
  mem names leaf := by cases names <;> simp [followIn, Named.get?]
  ordered := .nil
  flattened path := by simp [flattenFields]

section Cons

variable {name : String} {first others : List (List String × Json)}

theorem followIn_cons_self (ns : List String) :
    followIn ((name, field) :: fields) (name :: ns) = follow field ns := by
  rw [followIn, Named.get?_cons_self, Option.bind_some]

theorem followIn_cons_of_ne {n : String} (other : name ≠ n) (ns : List String) :
    followIn ((name, field) :: fields) (n :: ns) = followIn fields (n :: ns) := by
  rw [followIn, Named.get?_cons_of_ne _ _ other]
  rfl

/-- What is found behind a block begins with a name of the block. -/
theorem exists_of_followIn (found : followIn fields names = some last) :
    ∃ n ns, names = n :: ns ∧ n ∈ fields.map (·.1) := by
  cases names with
  | nil => cases found
  | cons n ns =>
    obtain ⟨next, here, -⟩ := Option.bind_eq_some_iff.mp found
    exact ⟨n, ns, rfl, mem_names_of_get? here⟩

/-- The order of a block stays with another field in front of it. -/
theorem EarlierIn.cons (fresh : name ∉ fields.map (·.1)) {ns ms : List String}
    (earlier : EarlierIn fields ns ms) : EarlierIn ((name, field) :: fields) ns ms := by
  match ns, ms, earlier with
  | n :: ns, m :: ms, .inl before =>
    exact .inl (before.cons name)
  | n :: ns, m :: ms, .inr ⟨same, next, found, later⟩ =>
    have other : name ≠ n := fun e => fresh (e ▸ mem_names_of_get? found)
    exact .inr ⟨same, next, (Named.get?_cons_of_ne field fields other).trans found, later⟩

/-- A field and the rest of its block, listed one after the other. -/
theorem ListsAll.cons (fresh : name ∉ fields.map (·.1)) (own : Lists field first)
    (rest : ListsAll fields others) :
    ListsAll ((name, field) :: fields)
      (first.map (fun entry => (name :: entry.1, entry.2)) ++ others) where
  mem names leaf := by
    rw [List.mem_append, rest.mem]
    have inFirst : ∀ n ns, (n :: ns, leaf) ∈ first.map (fun e => (name :: e.1, e.2)) ↔
        name = n ∧ follow field ns = some leaf ∧ IsLeaf leaf := by
      intro n ns
      rw [← own.mem, List.mem_map]
      constructor
      · rintro ⟨entry, mem, e⟩
        cases e
        exact ⟨rfl, mem⟩
      · rintro ⟨rfl, mem⟩
        exact ⟨_, mem, rfl⟩
    cases names with
    | nil => simp [followIn]
    | cons n ns =>
      rw [inFirst]
      by_cases here : name = n
      · subst here
        have nothing : followIn fields (name :: ns) ≠ some leaf := fun found => by
          obtain ⟨m, ms, e, mem⟩ := exists_of_followIn found
          cases e
          exact fresh mem
        rw [followIn_cons_self]
        simp [nothing]
      · rw [followIn_cons_of_ne here]
        simp [here]
  ordered := by
    refine List.pairwise_append.mpr ⟨?_, ?_, ?_⟩
    · refine List.pairwise_map.mpr (own.ordered.imp fun earlier => ?_)
      exact .inr ⟨rfl, field, Named.get?_cons_self .., earlier⟩
    · exact rest.ordered.imp fun earlier => earlier.cons fresh
    · intro a mem b later
      obtain ⟨entry, -, rfl⟩ := List.mem_map.mp mem
      obtain ⟨m, ms, names, there⟩ := exists_of_followIn ((rest.mem b.1 b.2).mp later).1
      rw [names]
      exact .inl ((List.singleton_sublist.mpr there).cons_cons name)
  flattened path := by
    simp only [flattenFields, own.flattened, rest.flattened, List.map_append, List.map_map]
    rfl

end Cons

/-- The leaves of the fields of a block. -/
theorem exists_listsAll (distinct : (fields.map (·.1)).Nodup)
    (each : ∀ e ∈ fields, ∃ leaves, Lists e.2 leaves) : ∃ leaves, ListsAll fields leaves := by
  induction fields with
  | nil => exact ⟨[], .nil⟩
  | cons e fields ih =>
    obtain ⟨fresh, later⟩ := List.nodup_cons.mp distinct
    obtain ⟨first, own⟩ := each e List.mem_cons_self
    obtain ⟨others, rest⟩ := ih later fun e mem => each e (List.mem_cons_of_mem _ mem)
    exact ⟨_, rest.cons fresh own⟩

/-- A leaf is the only one from itself on. -/
theorem Lists.leaf (bare : blockOf field = []) (own : IsLeaf field)
    (flattened : ∀ path, flattenField path field = .ok [⟨path, typeOf field⟩]) :
    Lists field [([], field)] where
  mem names leaf := by
    cases names with
    | nil =>
      simp only [follow, List.mem_singleton, Prod.mk.injEq, true_and, Option.some.injEq]
      constructor
      · rintro rfl
        exact ⟨rfl, own⟩
      · rintro ⟨rfl, -⟩
        rfl
    | cons n ns => simp [follow, bare, Named.get?]
  ordered := List.pairwise_singleton _ _
  flattened := flattened

/-- From a field with a block on, the leaves are those of the block. -/
theorem Lists.block {leaves : List (List String × Json)} (inside : blockOf field = fields)
    (container : ¬ IsLeaf field) (rest : ListsAll fields leaves)
    (flattened : ∀ path, flattenField path field = flattenFields path fields) :
    Lists field leaves where
  mem names leaf := by
    rw [rest.mem]
    cases names with
    | nil =>
      simp only [followIn, follow, Option.some.injEq, reduceCtorEq, false_and, false_iff, not_and]
      rintro rfl
      exact container
    | cons n ns =>
      rw [← inside]
      rfl
  ordered := by
    refine rest.ordered.imp_of_mem fun {a b} memA memB earlier => ?_
    obtain ⟨n, ns, first, -⟩ := exists_of_followIn ((rest.mem a.1 a.2).mp memA).1
    obtain ⟨m, ms, second, -⟩ := exists_of_followIn ((rest.mem b.1 b.2).mp memB).1
    rw [first, second] at earlier ⊢
    rw [← inside] at earlier
    exact earlier
  flattened path := (flattened path).trans (rest.flattened path)

/-! ## Flattening -/

/-- Of several members with the name the first counts. -/
theorem flattenProperties_of_get? {ms : Members} {v : Json}
    (found : ms.get? "properties" = some v) (path : String) :
    flattenProperties path ms = flattenProperties path [("properties", v)] := by
  induction ms with
  | nil => cases found
  | cons e ms ih =>
    obtain ⟨name, w⟩ := e
    by_cases here : name = "properties"
    · subst here
      obtain rfl := Option.some.inj ((Named.get?_cons_self _ w ms).symm.trans found)
      unfold flattenProperties
      rfl
    · rw [flattenProperties_cons_of_ne here]
      exact ih ((Named.get?_cons_of_ne w ms here).symm.trans found)

/-- A field with a block is flattened below the block. -/
theorem flattenField_of_get? {ms : Members} {v : Json}
    (found : ms.get? "properties" = some v) (path : String) :
    flattenField path (.obj ms) = flattenProperties path [("properties", v)] := by
  have here : Named.has ms "properties" = true := by rw [Named.has_eq_isSome, found]; rfl
  rw [← flattenProperties_of_get? found]
  conv => lhs; unfold flattenField
  exact if_pos here

theorem flattenProperties_of_not_given {v : Json} (absent : v.given = false) (path : String) :
    flattenProperties path [("properties", v)] = .ok [] := by
  cases v with
  | obj fields =>
    obtain rfl : fields = [] := by simpa [Json.given] using absent
    rw [flattenProperties_block]
    simp [flattenFields]
  | _ => simp [flattenProperties, absent]

/-- The definition of a leaf has its declared type. -/
theorem leaf_eq {ms : Members} (path : String)
    (type : ms.getOrNull "type" = .null ∨ ∃ type, ms.getOrNull "type" = .str type) :
    leaf path (ms.get? "type") = .ok ⟨path, typeOf (.obj ms)⟩ := by
  rw [typeOf]
  unfold Members.getOrNull at type ⊢
  generalize ms.get? "type" = given at type ⊢
  cases given with
  | none => rfl
  | some v =>
    rcases type with null | ⟨text, own⟩
    · obtain rfl : v = .null := null
      rfl
    · obtain rfl : v = .str text := own
      rfl

theorem lists_of_leaf {ms : Members} (bare : ms.get? "properties" = none)
    (type : ms.getOrNull "type" = .null ∨ ∃ type, ms.getOrNull "type" = .str type) :
    Lists (.obj ms) [([], .obj ms)] := by
  have nothing : ¬ Named.has ms "properties" = true := by simp [Named.has_eq_isSome, bare]
  refine .leaf (by rw [blockOf, bare]) bare fun path => ?_
  conv => lhs; unfold flattenField
  rw [if_neg nothing, leaf_eq path type]
  rfl

theorem lists_of_not_given {v : Json} (absent : v.given = false) : Lists v [([], v)] := by
  cases v with
  | obj ms =>
    obtain rfl : ms = [] := by simpa [Json.given] using absent
    exact lists_of_leaf rfl (.inl rfl)
  | _ =>
    refine .leaf rfl trivial fun path => ?_
    simp [flattenField, absent, typeOf, pure, Except.pure]

theorem lists_of_bare {ms : Members} {v : Json} (found : ms.get? "properties" = some v)
    (absent : v.given = false) : Lists (.obj ms) [] := by
  have nothing : ListsAll [] [] := .nil
  refine .block ?_ (by simp [IsLeaf, found]) nothing fun path => ?_
  · cases v with
    | obj fields => simpa [blockOf, found, Json.given] using absent
    | _ => simp [blockOf, found]
  · rw [flattenField_of_get? found, flattenProperties_of_not_given absent]
    simp [flattenFields]

/-- The leaves of a field that can be flattened can be listed. -/
theorem exists_lists (h : IsField fine field) : ∃ leaves, Lists field leaves := by
  induction h with
  | none absent => exact ⟨_, lists_of_not_given absent⟩
  | leaf bare type => exact ⟨_, lists_of_leaf bare type⟩
  | bare found absent => exact ⟨_, lists_of_bare found absent⟩
  | @block ms fields found distinct named each ih =>
    obtain ⟨leaves, all⟩ := exists_listsAll distinct ih
    refine ⟨leaves, .block (by rw [blockOf, found]) (by simp [IsLeaf, found]) all fun path => ?_⟩
    rw [flattenField_of_get? found, flattenProperties_block]

end IndexExplorer.Mapping
