import IndexExplorer.Proofs.Mapping.Leaves
import IndexExplorer.Proofs.Text.Split

/-!
The paths of the fields that flattening finds.

* `pathOf`, `foldl_join`: the path of a leaf is the prefix and the names on the way down, with points
  between them;
* `fine_of_follow`, `not_earlier_self`: what a tree says of the names that lead to its fields;
* `splitAt_pathOf`, `count_pathOf`: names without points are found again in a path;
* **`flatten_exact`**: flattening a tree gives one definition for each of its leaves and no other, in
  the order of the tree, under each prefix; and without points in the names a path tells its leaf.
-/
namespace IndexExplorer

/-- A field below a path. -/
def FieldDefinition.under (path : String) (f : FieldDefinition) : FieldDefinition :=
  { f with path := path ++ "." ++ f.path }

namespace Mapping

variable {fine : String → Prop} {field last : Json} {fields : Members} {names : List String}

/-! ## Names in a tree -/

theorem isTree_nil : IsTree fine [] := ⟨List.nodup_nil, nofun, nofun⟩

/-- The block of a field in a tree is a tree. -/
theorem IsField.isTree_below (h : IsField fine field) : IsTree fine (blockOf field) := by
  cases h with
  | none absent =>
    cases field with
    | obj ms =>
      obtain rfl : ms = [] := by simpa [Json.given] using absent
      exact isTree_nil
    | _ => exact isTree_nil
  | leaf bare => rw [blockOf, bare]; exact isTree_nil
  | @bare ms v found absent =>
    rw [blockOf, found]
    cases v with
    | obj fields =>
      obtain rfl : fields = [] := by simpa [Json.given] using absent
      exact isTree_nil
    | _ => exact isTree_nil
  | block found distinct named each => rw [blockOf, found]; exact ⟨distinct, named, each⟩

theorem IsTree.of_get? (tree : IsTree fine fields) {name : String}
    (found : fields.get? name = some field) : fine name ∧ IsField fine field :=
  ⟨tree.named _ (Named.mem_of_get? found), tree.fields _ (Named.mem_of_get? found)⟩

/-- All names that lead to a field of a tree are fine. -/
theorem fine_of_follow (tree : IsTree fine fields) (found : followIn fields names = some last) :
    ∀ n ∈ names, fine n := by
  induction names generalizing fields with
  | nil => cases found
  | cons n names ih =>
    obtain ⟨next, here, later⟩ := Option.bind_eq_some_iff.mp found
    obtain ⟨own, isField⟩ := tree.of_get? here
    rw [List.forall_mem_cons]
    refine ⟨own, ?_⟩
    cases names with
    | nil => exact nofun
    | cons m names => exact ih isField.isTree_below later

/-- Nothing in a tree comes before itself. -/
theorem not_earlier_self (tree : IsTree fine fields) (names : List String) :
    ¬ EarlierIn fields names names := by
  induction names generalizing fields with
  | nil => exact id
  | cons n names ih =>
    rintro (before | ⟨-, next, here, later⟩)
    · have once := tree.distinct.sublist before
      simp at once
    · cases names with
      | nil => exact later
      | cons m names => exact ih (tree.of_get? here).2.isTree_below later

theorem IsTree.exists_listsAll (tree : IsTree fine fields) :
    ∃ leaves, ListsAll fields leaves :=
  Mapping.exists_listsAll tree.distinct fun e mem => exists_lists (tree.fields e mem)

/-! ## Paths -/

/-- The path of names below a prefix, which may be empty. -/
def pathOf (path : String) (names : List String) : String :=
  ".".intercalate (if path = "" then names else path :: names)

theorem foldl_join_of_ne {path : String} (full : path ≠ "") (names : List String) :
    names.foldl join path = ".".intercalate (path :: names) := by
  induction names generalizing path with
  | nil => rfl
  | cons n names ih =>
    have joined : join path n = path ++ "." ++ n := by
      rw [join, if_neg (by simpa using full)]
    have longer : path ++ "." ++ n ≠ "" := by simp [full]
    rw [List.foldl_cons, joined, ih longer, String.intercalate_cons_append,
      String.intercalate_cons_cons]

/-- Joining names one by one gives the path of them all. -/
theorem foldl_join (path : String) (named : ∀ n ∈ names, n ≠ "") :
    names.foldl join path = pathOf path names := by
  rw [pathOf]
  split
  · rename_i empty
    subst empty
    cases names with
    | nil => rfl
    | cons n names =>
      have joined : join "" n = n := rfl
      rw [List.foldl_cons, joined, foldl_join_of_ne (named n List.mem_cons_self)]
  · rename_i full
    exact foldl_join_of_ne full names

/-- The path below a prefix is the prefix and the path without it. -/
theorem pathOf_eq {path : String} (full : path ≠ "") (some : names ≠ []) :
    pathOf path names = path ++ "." ++ pathOf "" names := by
  obtain ⟨n, rest, rfl⟩ := List.exists_cons_of_ne_nil some
  rw [pathOf, pathOf, if_neg full, if_pos rfl, String.intercalate_cons_cons]

/-- Names without points are found again between the points of their path. -/
theorem splitAt_pathOf (some : names ≠ []) (plain : ∀ n ∈ names, '.' ∉ n.toList) :
    (Ip.splitAt '.' (pathOf "" names).toList).map String.ofList = names := by
  have point : ".".toList = ['.'] := by decide
  have parts : ∀ part ∈ names.map String.toList, '.' ∉ part := by
    intro part mem
    obtain ⟨n, named, rfl⟩ := List.mem_map.mp mem
    exact plain n named
  rw [pathOf, if_pos rfl, String.toList_intercalate, point,
    Ip.splitAt_intercalate parts (by simpa using some), List.map_map]
  simp

/-- There is one point less than there are names. -/
theorem count_pathOf (some : names ≠ []) (plain : ∀ n ∈ names, '.' ∉ n.toList) :
    (pathOf "" names).toList.count '.' + 1 = names.length := by
  have point : ".".toList = ['.'] := by decide
  rw [pathOf, if_pos rfl, String.toList_intercalate, point]
  induction names with
  | nil => exact absurd rfl some
  | cons n names ih =>
    obtain ⟨own, rest⟩ := List.forall_mem_cons.mp plain
    have none : n.toList.count '.' = 0 := List.count_eq_zero.mpr own
    cases names with
    | nil => simp [none]
    | cons m names =>
      have later := ih (List.cons_ne_nil _ _) rest
      rw [List.map_cons, List.map_cons, List.intercalate_cons_cons]
      rw [List.map_cons] at later
      simp only [List.count_append, none, List.length_cons] at later ⊢
      have one : ['.'].count '.' = 1 := by decide
      omega

theorem pathOf_inj {ns ms : List String} (first : ns ≠ []) (second : ms ≠ [])
    (plainFirst : ∀ n ∈ ns, '.' ∉ n.toList) (plainSecond : ∀ n ∈ ms, '.' ∉ n.toList)
    (same : pathOf "" ns = pathOf "" ms) : ns = ms := by
  rw [← splitAt_pathOf first plainFirst, same, splitAt_pathOf second plainSecond]

/-! ## Flattening -/

/-- Flattening a tree gives one definition for each leaf and none for any other field, in the order
of the tree, each with the declared type and the path of the leaf. Where no name has a point in it,
all paths differ, a path has one point less than its leaf is deep, and its parts lead to the
leaf. -/
theorem flatten_exact (tree : IsTree (· ≠ "") fields) :
    ∃ leaves : List (List String × Json),
      (∀ names leaf, (names, leaf) ∈ leaves ↔ followIn fields names = some leaf ∧ IsLeaf leaf) ∧
      (leaves.map (·.1)).Nodup ∧ leaves.Pairwise (fun a b => EarlierIn fields a.1 b.1) ∧
      (∀ path, flatten (.obj fields) path =
        .ok (leaves.map fun e => ⟨pathOf path e.1, typeOf e.2⟩)) ∧
      (∀ path, path ≠ "" → flatten (.obj fields) path =
        (flatten (.obj fields) "").map (List.map (FieldDefinition.under path))) ∧
      (IsTree (fun n => '.' ∉ n.toList) fields →
        (leaves.map fun e => pathOf "" e.1).Nodup ∧
        ∀ e ∈ leaves, (pathOf "" e.1).toList.count '.' + 1 = e.1.length ∧
          followIn fields ((Ip.splitAt '.' (pathOf "" e.1).toList).map String.ofList) =
            some e.2) := by
  obtain ⟨leaves, lists⟩ := tree.exists_listsAll
  have found : ∀ e ∈ leaves, followIn fields e.1 = some e.2 := fun e mem =>
    ((lists.mem e.1 e.2).mp mem).1
  have placed : ∀ e ∈ leaves, e.1 ≠ [] := by
    intro e mem none
    have nowhere := found e mem
    rw [none] at nowhere
    cases nowhere
  have differ : leaves.Pairwise fun a b => a.1 ≠ b.1 := by
    refine lists.ordered.imp ?_
    intro a b earlier same
    rw [same] at earlier
    exact not_earlier_self tree b.1 earlier
  have flattened : ∀ path, flatten (.obj fields) path =
      .ok (leaves.map fun e => ⟨pathOf path e.1, typeOf e.2⟩) := by
    intro path
    refine (lists.flattened path).trans (congrArg _ (List.map_congr_left fun e mem => ?_))
    rw [definition, foldl_join path (fine_of_follow tree (found e mem))]
  refine ⟨leaves, lists.mem, List.pairwise_map.mpr differ, lists.ordered, flattened, ?_, ?_⟩
  · intro path full
    rw [flattened, flattened, Except.map, List.map_map]
    refine congrArg _ (List.map_congr_left fun e mem => ?_)
    rw [pathOf_eq full (placed e mem)]
    rfl
  · intro pointless
    have plain : ∀ e ∈ leaves, ∀ n ∈ e.1, '.' ∉ n.toList := fun e mem =>
      fine_of_follow pointless (found e mem)
    refine ⟨List.pairwise_map.mpr (differ.imp_of_mem ?_), fun e mem => ⟨?_, ?_⟩⟩
    · intro a b memA memB other same
      exact other (pathOf_inj (placed a memA) (placed b memB) (plain a memA) (plain b memB) same)
    · exact count_pathOf (placed e mem) (plain e mem)
    · rw [splitAt_pathOf (placed e mem) (plain e mem), found e mem]

/-- A tree of two levels, with a leaf of no type and a block that is missing. -/
def twoLevels : Members := [
  ("id", .obj [("type", .str "keyword")]),
  ("meta", .obj [("properties", .obj [("host", .obj [("type", .str "text")]), ("note", .null)])]),
  ("rest", .obj [("properties", .null)])]

theorem isTree_twoLevels (named : ∀ n ∈ ["id", "meta", "rest", "host", "note"], fine n) :
    IsTree fine twoLevels := by
  have host : IsField fine (.obj [("type", .str "text")]) := .leaf rfl (.inr ⟨_, rfl⟩)
  have inner : ∀ e ∈ [("host", Json.obj [("type", .str "text")]), ("note", .null)],
      fine e.1 ∧ IsField fine e.2 := by
    simp only [List.forall_mem_cons]
    exact ⟨⟨named _ (by decide), host⟩, ⟨named _ (by decide), .none rfl⟩, nofun⟩
  refine ⟨by decide, ?_, ?_⟩
  · simp only [twoLevels, List.forall_mem_cons]
    exact ⟨named _ (by decide), named _ (by decide), named _ (by decide), nofun⟩
  · simp only [twoLevels, List.forall_mem_cons]
    exact ⟨.leaf rfl (.inr ⟨_, rfl⟩),
      .block rfl (by decide) (fun e mem => (inner e mem).1) (fun e mem => (inner e mem).2),
      .bare rfl rfl, nofun⟩

theorem flatten_exact_twoLevels :
    IsTree (· ≠ "") twoLevels ∧ ∃ leaves : List (List String × Json),
      (["meta", "note"], .null) ∈ leaves ∧ (leaves.map (·.1)).Nodup ∧
        (leaves.map fun e => pathOf "" e.1).Nodup ∧ ∀ path, flatten (.obj twoLevels) path =
          .ok (leaves.map fun e => ⟨pathOf path e.1, typeOf e.2⟩) := by
  have tree : IsTree (· ≠ "") twoLevels := isTree_twoLevels (by decide)
  obtain ⟨leaves, mem, once, -, flattened, -, pointless⟩ := flatten_exact tree
  have there : (["meta", "note"], Json.null) ∈ leaves := (mem _ _).mpr ⟨rfl, trivial⟩
  exact ⟨tree, leaves, there, once, (pointless (isTree_twoLevels (by decide))).1, flattened⟩

end Mapping

end IndexExplorer
