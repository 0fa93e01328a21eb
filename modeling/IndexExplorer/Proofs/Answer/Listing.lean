import IndexExplorer.Proofs.Answer.Shapes
import IndexExplorer.Proofs.Number.Integer
import Mathlib.Data.List.Forall2

/-!
What a listing of indices tells of its rows.

* `sortByName_filter_name`, `sortByName_filter`: sorting keeps the order of records with one name,
  and it does not matter whether records are left out before it or after;
* `IsRow`, `shows`, `IsRecordOf`: the rows, those that are shown, and the record of one;
* `exists_record`, `exists_records`: each row that is shown has a record of its own;
* **`listing_exact`**: the listing is the records of the rows that are shown, by name.
-/
namespace IndexExplorer.IndexInfo

variable {records infos others : List IndexInfo}

/-! ## Records by name -/

/-- Records with one name keep their order. -/
theorem sortByName_filter_name (records : List IndexInfo) (name : String) :
    (sortByName records).filter (·.index = name) = records.filter (·.index = name) := by
  have alike : (records.filter (·.index = name)).Pairwise fun a b => inOrder a b := by
    refine List.pairwise_of_forall_mem_list fun a ha b hb => inOrder_iff.mpr ?_
    have ea : a.index = name := by simpa using (List.mem_filter.mp ha).2
    have eb : b.index = name := by simpa using (List.mem_filter.mp hb).2
    have same : a.index = b.index := ea.trans eb.symm
    exact same ▸ String.le_refl a.index
  have within : (records.filter (·.index = name)).Sublist (sortByName records) :=
    List.sublist_mergeSort inOrder_trans inOrder_total alike List.filter_sublist
  have kept := within.filter (·.index = name)
  rw [List.filter_filter] at kept
  simp only [Bool.and_self] at kept
  exact (kept.eq_of_length ((sortByName_perm records).filter _).length_eq.symm).symm

/-- No name comes before the first one. -/
theorem le_of_mem_sorted {a c : IndexInfo}
    (sorted : (a :: infos).Pairwise fun a b => a.index ≤ b.index) (mem : c ∈ a :: infos) :
    a.index ≤ c.index := by
  rcases List.mem_cons.mp mem with rfl | mem
  · exact String.le_refl _
  · exact (List.pairwise_cons.mp sorted).1 c mem

/-- Two lists by name are equal when the records with each name are. -/
theorem eq_of_sorted (first : infos.Pairwise fun a b => a.index ≤ b.index)
    (second : others.Pairwise fun a b => a.index ≤ b.index)
    (same : ∀ name, infos.filter (·.index = name) = others.filter (·.index = name)) :
    infos = others := by
  induction infos generalizing others with
  | nil =>
    cases others with
    | nil => rfl
    | cons b others => simpa using same b.index
  | cons a infos ih =>
    have members : ∀ c, c ∈ a :: infos ↔ c ∈ others := by
      intro c
      have h : c ∈ (a :: infos).filter (·.index = c.index) ↔
          c ∈ others.filter (·.index = c.index) := by rw [same]
      simpa [List.mem_filter] using h
    cases others with
    | nil => exact absurd ((members a).mp List.mem_cons_self) List.not_mem_nil
    | cons b others =>
      have name : b.index = a.index := String.le_antisymm
        (le_of_mem_sorted second ((members a).mp List.mem_cons_self))
        (le_of_mem_sorted first ((members b).mpr List.mem_cons_self))
      obtain ⟨rfl, -⟩ : a = b ∧ _ := by simpa [name] using same a.index
      refine congrArg (a :: ·) (ih first.of_cons second.of_cons fun n => ?_)
      have whole := same n
      by_cases own : a.index = n
      · simpa [own] using whole
      · simpa [own] using whole

/-- It does not matter whether records are left out before sorting or after. -/
theorem sortByName_filter (p : IndexInfo → Bool) (records : List IndexInfo) :
    sortByName (records.filter p) = (sortByName records).filter p := by
  have sorted := pairwise_sortByName records
  refine eq_of_sorted (pairwise_sortByName _) (sorted.filter p) fun name => ?_
  calc (sortByName (records.filter p)).filter (·.index = name)
      = (records.filter p).filter (·.index = name) := sortByName_filter_name _ name
    _ = (records.filter (·.index = name)).filter p := List.filter_comm ..
    _ = ((sortByName records).filter (·.index = name)).filter p := by
        rw [sortByName_filter_name]
    _ = ((sortByName records).filter p).filter (·.index = name) := List.filter_comm ..

/-- The records by name: the same records, sorted, and with each name in the order that they had. -/
structure SortedFrom (records infos : List IndexInfo) : Prop where
  perm : infos.Perm records
  sorted : infos.Pairwise fun a b => a.index ≤ b.index
  stable : ∀ name, infos.filter (·.index = name) = records.filter (·.index = name)

theorem sortedFrom_sortByName (records : List IndexInfo) :
    SortedFrom records (sortByName records) :=
  ⟨sortByName_perm records, pairwise_sortByName records, sortByName_filter_name records⟩

/-! ## Counts -/

/-- What a column of counts tells: an integer, or a text that spells one. -/
inductive Tells : Json → Option Int → Prop
  | absent : Tells .null none
  | int (n : Int) : Tells (.int n) (some n)
  | spelt {s : String} {n : Int} : Number.Spells s n → Tells (.str s) (some n)
  | other {s : String} : (∀ n, ¬ Number.Spells s n) → Tells (.str s) none

/-- Any text tells an integer or none. -/
theorem exists_tells_text (s : String) :
    ∃ count, countOf (.str s) = .ok count ∧ Tells (.str s) count := by
  have spelt : ∀ n, (Json.str s).toInteger = .ok n ↔ Number.Spells s n := fun n =>
    Json.readInteger_ok_iff.trans Number.readInt_ok_iff
  cases number : (Json.str s).toInteger with
  | ok n => exact ⟨some n, by rw [countOf, number], .spelt ((spelt n).mp number)⟩
  | error p =>
    have other : ∀ n, ¬ Number.Spells s n := fun n h => by
      rw [(spelt n).mpr h] at number
      cases number
    refine ⟨none, ?_, .other other⟩
    rcases Json.trouble_of_toInteger number with rfl | ⟨b, rfl⟩ | ⟨-, x, e, -⟩
    · rw [countOf, number]
    · rw [countOf, number]
    · cases e

/-- A text tells the integer that it is read as. -/
theorem count_of_tells {s : String} {n : Int} {count : Option Int} (tells : Tells (.str s) count)
    (read : Number.readInt s = .ok n) : count = some n := by
  cases tells with
  | spelt spelt =>
    have same := (Number.readInt_ok_iff.mpr spelt).symm.trans read
    exact congrArg some (Except.ok.inj same)
  | other none => exact absurd (Number.readInt_ok_iff.mp read) (none n)

/-- A count that is missing, an integer or a text tells an integer or none. -/
theorem exists_tells {v : Json} (h : IsColumn v ∨ ∃ n, v = .int n) :
    ∃ count, countOf v = .ok count ∧ Tells v count := by
  rcases h with (rfl | ⟨s, rfl⟩) | ⟨n, rfl⟩
  · exact ⟨none, rfl, .absent⟩
  · exact exists_tells_text s
  · exact ⟨some n, rfl, .int n⟩

/-! ## Rows -/

/-- The name begins with a dot, as those of hidden indices do. -/
def isDotted (name : String) : Bool := name.toList.head? == some '.'

/-- A row as the engine sends it: its columns are texts or missing, and the count of its documents
may be an integer. -/
structure IsRow (ms : Members) : Prop where
  name : IsColumn (ms.getOrNull "index")
  count : IsColumn (ms.getOrNull "docs.count") ∨ ∃ n, ms.getOrNull "docs.count" = .int n
  columns : ∀ column ∈ ["health", "status", "store.size"], IsColumn (ms.getOrNull column)

/-- A row is shown when it has a name, which has no dot in front unless hidden indices are shown
too. -/
def shows (hiddenToo : Bool) (ms : Members) : Bool :=
  match ms.getOrNull "index" with
  | .str name => name ≠ "" && (hiddenToo || !isDotted name)
  | _ => false

/-- The record has the columns of the row. -/
structure IsRecordOf (ms : Members) (info : IndexInfo) : Prop where
  index : ms.getOrNull "index" = .str info.index
  health : ms.getOrNull "health" = .ofOption .str info.health
  status : ms.getOrNull "status" = .ofOption .str info.status
  count : Tells (ms.getOrNull "docs.count") info.docsCount
  size : ms.getOrNull "store.size" = .ofOption .str info.storeSize

variable {v : Json} {ms : Members} {hiddenToo : Bool}

theorem startsWith_dot (name : String) : name.startsWith "." = isDotted name := by
  rw [Bool.eq_iff_iff, String.startsWith_string_iff, isDotted, beq_iff_eq]
  change ['.'] <+: name.toList ↔ _
  cases name.toList with
  | nil => simp
  | cons c cs => simp [List.cons_prefix_cons, eq_comm]

theorem exists_of_isColumn (h : IsColumn v) :
    ∃ text, Rule.optional Rule.text v = .passed text ∧ v = .ofOption .str text := by
  rcases h with rfl | ⟨s, rfl⟩
  · exact ⟨none, rfl, rfl⟩
  · exact ⟨some s, rfl, rfl⟩

/-- The record of a row with this name. -/
def recordOf (ms : Members) (name : String) : Result IndexInfo := do
  let count ← countOf (ms.getOrNull "docs.count")
  let column := fun (n field : String) =>
    ((Rule.optional Rule.text) (ms.getOrNull n)).under (.member field)
  Checked.result (IndexInfo.mk name <$> column "health" "health" <*> column "status" "status"
    <*> pure count <*> column "store.size" "store_size")

/-- A row with a name has a record, unless it is hidden. -/
theorem ofRow_of_named {name : String} (named : ms.getOrNull "index" = .str name)
    (some : name ≠ "") : ofRow hiddenToo (.obj ms) =
      if isDotted name && !hiddenToo then .ok none else (recordOf ms name).map .some := by
  have given : (Json.str name).given = true := by simp [Json.given, some]
  simp only [ofRow, named, given, startsWith_dot, Bool.not_true, Bool.false_eq_true, ↓reduceIte]
  split
  · rfl
  · rw [recordOf]
    cases countOf (ms.getOrNull "docs.count") <;> rfl

theorem index_of_recordOf {name : String} {info : IndexInfo} (h : recordOf ms name = .ok info) :
    info.index = name := by
  obtain ⟨count, -, checked⟩ := bind_eq_ok_iff.mp h
  have passed := Checked.result_eq_ok_iff.mp checked
  simp only [Checked.seq_eq_passed_iff, Checked.map_eq_passed_iff] at passed
  obtain ⟨_, size, ⟨_, count, ⟨_, status, ⟨health, -, rfl⟩, -, rfl⟩, -, rfl⟩, -, rfl⟩ := passed
  rfl

/-- The columns of a row are in its record. -/
theorem exists_record {name : String} (row : IsRow ms)
    (named : ms.getOrNull "index" = .str name) :
    ∃ info, recordOf ms name = .ok info ∧ IsRecordOf ms info := by
  obtain ⟨count, counted, tells⟩ := exists_tells row.count
  obtain ⟨⟨health, status⟩, size⟩ := forall_columns.mp row.columns
  obtain ⟨health, healthy, e₁⟩ := exists_of_isColumn health
  obtain ⟨status, standing, e₂⟩ := exists_of_isColumn status
  obtain ⟨size, sized, e₃⟩ := exists_of_isColumn size
  refine ⟨⟨name, health, status, count, size⟩, ?_, ⟨named, e₁, e₂, tells, e₃⟩⟩
  rw [recordOf, counted]
  dsimp only
  rw [healthy, standing, sized]
  rfl

/-- A row has a record when it is shown. -/
theorem exists_ofRow (row : IsRow ms) (hiddenToo : Bool) :
    ∃ found, ofRow hiddenToo (.obj ms) = .ok found ∧
      if shows hiddenToo ms then ∃ info, found = some info ∧ IsRecordOf ms info
      else found = none := by
  rcases row.name with absent | ⟨name, named⟩
  · exact ⟨none, by simp [ofRow, absent, Json.given], by simp [shows, absent]⟩
  · by_cases some : name = ""
    · exact ⟨none, by simp [ofRow, named, some, Json.given], by simp [shows, named, some]⟩
    · obtain ⟨info, made, record⟩ := exists_record row named
      have shown : shows hiddenToo ms = !(isDotted name && !hiddenToo) := by
        simp [shows, named, some, Bool.or_comm]
      rw [ofRow_of_named named some, made, shown]
      cases isDotted name && !hiddenToo with
      | true => exact ⟨none, rfl, rfl⟩
      | false => exact ⟨.some info, rfl, info, rfl, record⟩

/-- The rows that are shown have one record each, in their order. -/
theorem exists_records {rows : List Members} (fit : ∀ ms ∈ rows, IsRow ms) (hiddenToo : Bool) :
    ∃ records, ofRowList hiddenToo (rows.map .obj) = .ok records ∧
      List.Forall₂ IsRecordOf (rows.filter (shows hiddenToo)) records := by
  induction rows with
  | nil => exact ⟨[], rfl, .nil⟩
  | cons ms rows ih =>
    obtain ⟨row, rest⟩ := List.forall_mem_cons.mp fit
    obtain ⟨found, first, one⟩ := exists_ofRow row hiddenToo
    obtain ⟨records, read, alike⟩ := ih rest
    have whole : ofRowList hiddenToo ((ms :: rows).map .obj) = .ok (found.toList ++ records) := by
      simp only [List.map_cons, ofRowList, first, read]
      rfl
    refine ⟨_, whole, ?_⟩
    cases shown : shows hiddenToo ms with
    | true =>
      rw [shown] at one
      obtain ⟨info, rfl, record⟩ := one
      rw [List.filter_cons_of_pos shown]
      exact .cons record alike
    | false =>
      rw [shown] at one
      obtain rfl : found = none := one
      rwa [List.filter_cons_of_neg (by simp [shown])]

/-! ## Listings -/

theorem ofListing_arr (rows : List Json) :
    ofListing (.arr rows) hiddenToo = (ofRowList hiddenToo rows).map sortByName := by
  cases rows with
  | nil => simp [ofListing, Json.given, ofRowList, sortByName, Except.map]
  | cons row rows => rfl

/-- Without the hidden indices a row has the record that it has with them, or none. -/
theorem ofRow_false {found : Option IndexInfo} (read : ofRow true v = .ok found) :
    ofRow false v = .ok (found.filter (!isDotted ·.index)) := by
  cases v with
  | obj ms =>
    by_cases given : (Members.getOrNull ms "index").given
    · cases named : Members.getOrNull ms "index" with
      | str name =>
        have some : name ≠ "" := by simpa [named, Json.given] using given
        rw [ofRow_of_named named some] at read ⊢
        simp only [Bool.not_true, Bool.and_false, Bool.false_eq_true, ↓reduceIte] at read
        obtain ⟨info, made, rfl⟩ := map_eq_ok_iff.mp read
        rw [made, Option.filter_some, index_of_recordOf made]
        cases isDotted name <;> rfl
      | _ => simp [ofRow, named, named ▸ given] at read
    · simp only [ofRow, given] at read ⊢
      obtain rfl : none = found := Except.ok.inj read
      rfl
  | _ => cases read

theorem ofRowList_false {rows : List Json} (read : ofRowList true rows = .ok records) :
    ofRowList false rows = .ok (records.filter (!isDotted ·.index)) := by
  induction rows generalizing records with
  | nil =>
    obtain rfl : [] = records := Except.ok.inj read
    rfl
  | cons row rows ih =>
    obtain ⟨found, first, rest⟩ := bind_eq_ok_iff.mp read
    obtain ⟨others, later, e⟩ := bind_eq_ok_iff.mp rest
    obtain rfl : found.toList ++ others = records := Except.ok.inj e
    simp only [ofRowList, ofRow_false first, ih later]
    rw [List.filter_append, ← Option.toList_filter]
    rfl

/-- A listing without the hidden indices is the one with them, less those whose name is dotted. -/
theorem ofListing_false {rows : List Json} (read : ofListing (.arr rows) true = .ok infos) :
    ofListing (.arr rows) false = .ok (infos.filter (!isDotted ·.index)) := by
  rw [ofListing_arr] at read ⊢
  obtain ⟨records, all, rfl⟩ := map_eq_ok_iff.mp read
  rw [ofRowList_false all, ← sortByName_filter]
  rfl

/-- **Listings are exact.** The listing of such rows is never refused. It has one record with the
columns of its own row for each row that is shown and no others, by name, and rows with one name
keep their order. Hidden indices are left out of the whole listing. -/
theorem listing_exact {rows : List Members} (fit : ∀ ms ∈ rows, IsRow ms) :
    (∀ hiddenToo, ∃ records infos, ofListing (.arr (rows.map .obj)) hiddenToo = .ok infos ∧
      List.Forall₂ IsRecordOf (rows.filter (shows hiddenToo)) records ∧
      SortedFrom records infos) ∧
    ∃ all, ofListing (.arr (rows.map .obj)) true = .ok all ∧
      ofListing (.arr (rows.map .obj)) false = .ok (all.filter (!isDotted ·.index)) := by
  have listed : ∀ hiddenToo, ∃ records infos,
      ofListing (.arr (rows.map .obj)) hiddenToo = .ok infos ∧
      List.Forall₂ IsRecordOf (rows.filter (shows hiddenToo)) records ∧
      SortedFrom records infos := by
    intro hiddenToo
    obtain ⟨records, read, alike⟩ := exists_records fit hiddenToo
    refine ⟨records, sortByName records, ?_, alike, sortedFrom_sortByName records⟩
    rw [ofListing_arr, read]
    rfl
  obtain ⟨-, all, read, -⟩ := listed true
  exact ⟨listed, all, read, ofListing_false read⟩

/-- Two rows with one name, between which there is a hidden one, and one without a name. -/
theorem listing_exact_sameName :
    let first : Members := [("index", .str "b"), ("docs.count", .str "1_000")]
    let second : Members := [("index", .str "b"), ("docs.count", .str " -٧ ")]
    let rows := [first, [("index", .str ".b"), ("docs.count", .int 2)], second,
      [("docs.count", .str "x")]]
    (∀ ms ∈ rows, IsRow ms) ∧ ∃ one two,
      ofListing (.arr (rows.map .obj)) false = .ok [one, two] ∧
      IsRecordOf first one ∧ one.docsCount = some 1000 ∧
      IsRecordOf second two ∧ two.docsCount = some (-7) := by
  intro first second rows
  have fit : ∀ ms ∈ rows, IsRow ms := by
    have columns : ∀ {ms : Members}, ms.getOrNull "health" = .null → ms.getOrNull "status" = .null →
        ms.getOrNull "store.size" = .null →
        ∀ column ∈ ["health", "status", "store.size"], IsColumn (ms.getOrNull column) :=
      fun health status size => forall_columns.mpr ⟨⟨.inl health, .inl status⟩, .inl size⟩
    simp only [rows, List.forall_mem_cons]
    exact ⟨⟨.inr ⟨_, rfl⟩, .inl (.inr ⟨_, rfl⟩), columns rfl rfl rfl⟩,
      ⟨.inr ⟨_, rfl⟩, .inr ⟨_, rfl⟩, columns rfl rfl rfl⟩,
      ⟨.inr ⟨_, rfl⟩, .inl (.inr ⟨_, rfl⟩), columns rfl rfl rfl⟩,
      ⟨.inl rfl, .inl (.inr ⟨_, rfl⟩), columns rfl rfl rfl⟩, nofun⟩
  obtain ⟨records, infos, read, alike, listed⟩ := (listing_exact fit).1 false
  have shown : rows.filter (shows false) = [first, second] := by rfl
  rw [shown] at alike
  cases alike with
  | @cons _ one _ _ own alike =>
    cases alike with
    | @cons _ two _ _ other alike =>
      cases alike
      have names : one.index = "b" ∧ two.index = "b" :=
        ⟨(Json.str.inj own.index).symm, (Json.str.inj other.index).symm⟩
      have whole : infos.filter (·.index = "b") = infos := by
        rw [List.filter_eq_self]
        intro info mem
        have pair : info = one ∨ info = two := by simpa using listed.perm.mem_iff.mp mem
        rcases pair with rfl | rfl
        · simpa using names.1
        · simpa using names.2
      have order : infos = [one, two] := by
        rw [← whole, listed.stable "b"]
        simp [names]
      refine ⟨fit, one, two, order ▸ read, own, ?_, other, ?_⟩
      · exact count_of_tells own.count (by rfl)
      · exact count_of_tells other.count (by rfl)

end IndexExplorer.IndexInfo
