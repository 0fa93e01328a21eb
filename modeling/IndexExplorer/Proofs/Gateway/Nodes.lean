import IndexExplorer.Proofs.Gateway.Failover
import IndexExplorer.Proofs.Request.Told
import IndexExplorer.Proofs.Text.Percent

/-!
The nodes of a connection as base URLs.

* `Trims`, `trims_trim`: an entry is its node without the blanks around it and without the slashes
  at the end of what is left;
* `Usable`, `HasLooseSlash`: entries that are in order, and nodes that do not become one, because
  their last slashes stand alone or behind a blank;
* `usable_trim_iff`, `normalize_eq_self_iff`: the others do, and where all do, normalizing again
  changes nothing;
* `not_lacksNodes_run_ask`: asking nodes is never told as having none;
* **`Gateway.normalize_usable`**: what the nodes of a connection come to, and when it has none.
-/
namespace IndexExplorer

open Text

/-! ## Trimming -/

namespace Text

theorem not_blank_iff {s : String} : blank s = false ↔ ∃ c ∈ s.toList, isBlank c = false := by
  simp [blank]

end Text

namespace Node

/-- `entry` is the node without the blanks around it and without the slashes at the end of what is
left. -/
structure Trims (node entry : String) : Prop where
  parts : ∃ front slashes back, node.toList = front ++ (entry.toList ++ slashes) ++ back ∧
    (∀ c ∈ front, isBlank c) ∧ (∀ c ∈ slashes, c = '/') ∧ (∀ c ∈ back, isBlank c) ∧
    (∀ c, (entry.toList ++ slashes).head? = some c → isBlank c = false) ∧
    ∀ c, (entry.toList ++ slashes).getLast? = some c → isBlank c = false
  slashless : entry.toList.getLast? ≠ some '/'

/-- A base URL is in order: it is not empty, and has no blanks around it and no slash at its end. -/
structure Usable (entry : String) : Prop where
  present : entry ≠ ""
  head : ∀ c, entry.toList.head? = some c → isBlank c = false
  last : ∀ c, entry.toList.getLast? = some c → isBlank c = false ∧ c ≠ '/'

/-- A node ends in slashes, blanks aside, and they stand alone or behind a blank. -/
def HasLooseSlash (node : String) : Prop :=
  ∃ front slashes back, node.toList = front ++ slashes ++ back ∧ slashes ≠ [] ∧
    (∀ c ∈ slashes, c = '/') ∧ (∀ c ∈ back, isBlank c) ∧
    ∀ c, front.getLast? = some c → isBlank c

variable {node entry : String} {nodes : List String}

theorem toList_trim (node : String) : (trim node).toList =
    dropEndWhile (· = '/') (trimWhile isBlank node.toList) := String.toList_ofList ..

theorem trims_trim (node : String) : Trims node (trim node) := by
  obtain ⟨slashes, split, all⟩ := exists_dropEndWhile (· = '/') (trimWhile isBlank node.toList)
  obtain ⟨back, rest, blanks⟩ := exists_dropEndWhile isBlank (node.toList.dropWhile isBlank)
  rw [← toList_trim] at split
  refine ⟨⟨node.toList.takeWhile isBlank, slashes, back, ?_, ?_, ?_, blanks, ?_, ?_⟩, ?_⟩
  · rw [← split, trimWhile, List.append_assoc, ← rest, List.takeWhile_append_dropWhile]
  · exact fun c mem => List.mem_takeWhile_imp mem
  · exact fun c mem => of_decide_eq_true (all c mem)
  · rw [← split]
    exact fun c first => not_of_head?_trimWhile first
  · rw [← split]
    exact fun c last => not_of_getLast?_dropEndWhile last
  · intro last
    rw [toList_trim] at last
    exact absurd (not_of_getLast?_dropEndWhile last) (by decide)

theorem HasLooseSlash.not_blank (loose : HasLooseSlash node) : blank node = false := by
  obtain ⟨front, slashes, back, split, some, all, -⟩ := loose
  obtain ⟨c, rest, rfl⟩ := List.exists_cons_of_ne_nil some
  obtain rfl := all c List.mem_cons_self
  exact not_blank_iff.mpr ⟨'/', by simp [split], by decide⟩

/-- Of a node with a loose slash nothing is left, or what ends in the blank before the slash. -/
theorem HasLooseSlash.last_trim (loose : HasLooseSlash node) :
    ∀ c, (trim node).toList.getLast? = some c → isBlank c := by
  obtain ⟨front, slashes, back, split, some, all, blanks, apart⟩ := loose
  have visible : ∀ c ∈ slashes, isBlank c = false := by
    intro c mem
    rw [all c mem]
    decide
  have slash : slashes.dropWhile isBlank = slashes :=
    dropWhile_eq_self fun c first => visible c (List.mem_of_mem_head? first)
  -- The slashes are the last of what is not blank, and the first unless that begins before them.
  have begun : node.toList.dropWhile isBlank = front.dropWhile isBlank ++ slashes ++ back := by
    rw [split, List.append_assoc, List.dropWhile_append]
    split
    · rename_i none
      rw [List.isEmpty_iff.mp none, List.nil_append, List.dropWhile_append, slash,
        if_neg (by simpa using some)]
    · rw [List.append_assoc]
  have ended : trimWhile isBlank node.toList = front.dropWhile isBlank ++ slashes := by
    rw [trimWhile, begun, dropEndWhile_append_of_forall blanks]
    refine dropEndWhile_eq_self fun c last => ?_
    rw [List.getLast?_append_of_ne_nil _ some] at last
    exact visible c (List.mem_of_getLast? last)
  have kept : ∀ c, (front.dropWhile isBlank).getLast? = Option.some c → isBlank c := by
    intro c last
    refine apart c ?_
    rw [← List.takeWhile_append_dropWhile (p := isBlank) (l := front),
      List.getLast?_append_of_ne_nil, last]
    rintro none
    simp [none] at last
  have left : (trim node).toList = front.dropWhile isBlank := by
    rw [toList_trim, ended, dropEndWhile_append_of_forall (by simpa using all)]
    refine dropEndWhile_eq_self fun c last => ?_
    have blank := kept c last
    rw [decide_eq_false_iff_not]
    rintro rfl
    cases blank
  rwa [left]

theorem Usable.exists_last (usable : Usable entry) :
    ∃ c, entry.toList.getLast? = some c ∧ isBlank c = false ∧ c ≠ '/' := by
  have ends := List.getLast?_eq_some_getLast (by simpa using usable.present : entry.toList ≠ [])
  exact ⟨_, ends, usable.last _ ends⟩

theorem HasLooseSlash.not_usable (loose : HasLooseSlash node) : ¬ Usable (trim node) := by
  intro usable
  obtain ⟨c, ends, visible, -⟩ := usable.exists_last
  have blank := loose.last_trim c ends
  rw [visible] at blank
  cases blank

/-- Without a loose slash there is something in front of the slashes that are cut off, and it does
not end in a blank. -/
theorem not_apart {front kept slashes back : List Char} (tight : ¬ HasLooseSlash node)
    (split : node.toList = front ++ (kept ++ slashes) ++ back) (all : ∀ c ∈ slashes, c = '/')
    (behind : ∀ c ∈ back, isBlank c) (present : slashes ≠ []) :
    ¬ ∀ c, (front ++ kept).getLast? = some c → isBlank c := fun apart =>
  tight ⟨front ++ kept, slashes, back, by simp [split], present, all, behind, apart⟩

/-- Of a node that is neither blank nor has a loose slash something is left. -/
theorem trim_ne_nil (present : blank node = false) (tight : ¬ HasLooseSlash node) :
    (trim node).toList ≠ [] := by
  intro none
  obtain ⟨⟨front, slashes, back, split, blanks, all, behind, -⟩, -⟩ := trims_trim node
  rw [none] at split
  by_cases slash : slashes = []
  · obtain ⟨c, mem, visible⟩ := not_blank_iff.mp present
    rw [split, slash] at mem
    have blank : isBlank c :=
      (List.mem_append.mp (by simpa using mem)).elim (blanks c) (behind c)
    rw [visible] at blank
    cases blank
  · refine not_apart tight split all behind slash fun c ends => ?_
    exact blanks c (List.mem_of_getLast? (by simpa using ends))

theorem usable_trim (present : blank node = false) (tight : ¬ HasLooseSlash node) :
    Usable (trim node) := by
  have some := trim_ne_nil present tight
  obtain ⟨⟨front, slashes, back, split, -, all, behind, first, last⟩, slashless⟩ := trims_trim node
  refine ⟨fun e => some (by simp [e]), fun c head => first c ?_, fun c ends => ⟨?_, ?_⟩⟩
  · rwa [List.head?_append_of_ne_nil _ some]
  · by_cases slash : slashes = []
    · exact last c (by simpa [slash] using ends)
    · by_contra blank
      refine not_apart tight split all behind slash fun d ends' => ?_
      rw [List.getLast?_append_of_ne_nil _ some, ends] at ends'
      obtain rfl := Option.some.inj ends'
      simpa using blank
  · rintro rfl
    exact slashless ends

/-- A node that is not blank becomes a base URL in order exactly when it has no loose slash. -/
theorem usable_trim_iff (present : blank node = false) :
    Usable (trim node) ↔ ¬ HasLooseSlash node :=
  ⟨fun usable loose => loose.not_usable usable, usable_trim present⟩

/-- A base URL is in order exactly when it is not blank and is kept as it is. -/
theorem usable_iff : Usable entry ↔ blank entry = false ∧ trim entry = entry := by
  constructor
  · rintro ⟨present, head, last⟩
    constructor
    · obtain ⟨c, rest, chars⟩ : ∃ c rest, entry.toList = c :: rest :=
        List.exists_cons_of_ne_nil (by simpa using present)
      exact not_blank_iff.mpr ⟨c, by simp [chars], head c (by simp [chars])⟩
    · rw [← String.toList_inj, toList_trim, trimWhile, dropWhile_eq_self head,
        dropEndWhile_eq_self fun c ends => (last c ends).1,
        dropEndWhile_eq_self fun c ends => by simpa using (last c ends).2]
  · rintro ⟨present, kept⟩
    obtain ⟨⟨front, slashes, back, split, -, -, -, first, last⟩, slashless⟩ := trims_trim entry
    rw [kept] at split first last slashless
    have whole : front.length + slashes.length + back.length = 0 := by
      have := congrArg List.length split
      simp only [List.length_append] at this
      omega
    obtain rfl : slashes = [] := List.length_eq_zero_iff.mp (by omega)
    rw [List.append_nil] at first last
    refine ⟨?_, first, fun c ends => ⟨last c ends, ?_⟩⟩
    · rintro rfl
      cases present
    · rintro rfl
      exact slashless ends

/-- Normalizing changes nothing exactly when every entry is in order. -/
theorem normalize_eq_self_iff : normalize nodes = nodes ↔ ∀ entry ∈ nodes, Usable entry := by
  simp only [usable_iff, normalize]
  constructor
  · intro kept
    have count : (nodes.filter (!blank ·)).length = nodes.length := by
      conv_rhs => rw [← kept, List.length_map]
    have present : ∀ entry ∈ nodes, (!blank entry) = true :=
      List.length_filter_eq_length_iff.mp count
    rw [List.filter_eq_self.mpr present] at kept
    have same : nodes.map trim = nodes.map id := by rw [kept, List.map_id]
    exact fun entry mem => ⟨by simpa using present entry mem, List.map_inj_left.mp same entry mem⟩
  · intro all
    rw [List.filter_eq_self.mpr fun entry mem => by simp [(all entry mem).1]]
    calc nodes.map trim
        = nodes.map id := List.map_congr_left fun entry mem => (all entry mem).2
      _ = nodes := List.map_id nodes

/-- The entries are all in order exactly when no node has a loose slash. -/
theorem forall_usable_iff :
    (∀ entry ∈ normalize nodes, Usable entry) ↔ ∀ node ∈ nodes, ¬ HasLooseSlash node := by
  simp only [normalize, List.forall_mem_map, List.mem_filter, Bool.not_eq_true']
  constructor
  · intro all node mem loose
    exact (usable_trim_iff loose.not_blank).mp (all node ⟨mem, loose.not_blank⟩) loose
  · rintro tight node ⟨mem, present⟩
    exact (usable_trim_iff present).mpr (tight node mem)

/-- A node of blanks and slashes alone is blank, unless it has a loose slash. -/
theorem blank_of_slashes (tight : ¬ HasLooseSlash node)
    (only : ∀ c ∈ node.toList, isBlank c ∨ c = '/') : ∀ c ∈ node.toList, isBlank c := by
  by_contra visible
  have present : blank node = false := not_blank_iff.mpr (by simpa using visible)
  obtain ⟨⟨front, slashes, back, split, -⟩, -⟩ := trims_trim node
  obtain ⟨c, ends, shown, other⟩ := (usable_trim present tight).exists_last
  have mem : c ∈ node.toList := by
    rw [split]
    simp [List.mem_of_getLast? ends]
  rcases only c mem with blank | slash
  · rw [shown] at blank
    cases blank
  · exact other slash

/-- Nothing is left when all nodes are blank. -/
theorem normalize_eq_nil_iff :
    normalize nodes = [] ↔ ∀ node ∈ nodes, ∀ c ∈ node.toList, isBlank c := by
  simp [normalize, List.filter_eq_nil_iff, blank]

end Node

/-! ## Connections without nodes -/

namespace Gateway

open Node

variable {env : Environment} {c : Connection} {call : Call} {s : Script} {nodes : List String}

/-- What is told is that there is no node. -/
def LacksNodes (r : Result α) : Prop := ∃ f, r = .error (.failure f) ∧ f.kind = .noNodes

theorem not_lacksNodes_verdict (node : String) {o : Outcome}
    (own : ∀ p, o = .unusable p → p.Stray) : ¬ LacksNodes (verdict node o) := by
  rintro ⟨f, told, kind⟩
  cases o with
  | received r =>
    have settled := settles_judge node r
    rw [show judge node r = .error (.failure f) from told] at settled
    have reported := settled.reported.1
    rw [kind] at reported
    split at reported <;> cases reported
  | fault fault => cases told
  | unusable p =>
    obtain rfl := Except.error.inj told
    exact own _ rfl f rfl

/-- Asking nodes is never told as having none. -/
theorem not_lacksNodes_run_ask (own : ∀ i url p, (s.outcome i).seen url = .unusable p → p.Stray)
    {lost : Failure} (asked : nodes = [] → lost.kind ≠ .noNodes) :
    ¬ LacksNodes ((ask env c call lost nodes).run s).2 := by
  -- A node that keeps silent leaves a failure of another kind for the nodes behind it.
  induction nodes generalizing lost s with
  | nil =>
    rintro ⟨f, told, kind⟩
    obtain rfl : lost = f := by simpa [ask, Exchange.run] using told
    exact asked rfl kind
  | cons node rest ih =>
    cases attempt : request env c call node with
    | error p =>
      rw [run_ask_of_error attempt]
      rintro ⟨f, told, kind⟩
      obtain rfl := Except.error.inj told
      obtain ⟨message, rfl⟩ := onlyCredential_request env c call node f attempt
      cases kind
    | ok r =>
      cases silent : ((s.outcome 0).seen r.url).silence? with
      | none =>
        rw [run_ask_of_answer attempt silent]
        exact not_lacksNodes_verdict node (own 0 r.url)
      | some f =>
        rw [run_ask_of_silence attempt silent]
        refine ih (fun i => own (i + 1)) fun _ same => ?_
        cases same

theorem lacksNodes_run_execute_iff (own : ∀ f, .unusable (.failure f) ∉ s.outcomes) :
    LacksNodes ((execute env c call).run s).2 ↔
      ∀ node ∈ c.nodes, ∀ c ∈ node.toList, isBlank c := by
  rw [← normalize_eq_nil_iff]
  constructor
  · intro lacking
    by_contra configured
    rw [execute_eq_ask env c call configured] at lacking
    exact not_lacksNodes_run_ask (fun i url p => Outcome.stray_of_outcome own)
      (fun none => absurd none configured) lacking
  · intro none
    simp only [execute, none]
    exact ⟨_, rfl, rfl⟩

/-- **Nodes as base URLs.** What is left of the nodes that are not blank, in their order, is each
without the blanks around it and the slashes at the end of what is left. It is a base URL in order
exactly when the node has no loose slash, so that normalizing again changes nothing exactly when no
node has one. A call is told that there are no nodes exactly when all are blank; where none has a
loose slash, that is when they consist of blanks and slashes. -/
theorem normalize_usable (nodes : List String) :
    List.Forall₂ (fun node entry => Trims node entry ∧ (Usable entry ↔ ¬ HasLooseSlash node))
      (nodes.filter (!blank ·)) (Node.normalize nodes) ∧
    (Node.normalize (Node.normalize nodes) = Node.normalize nodes ↔
      ∀ node ∈ nodes, ¬ HasLooseSlash node) ∧
    ∀ env c call (s : Script), c.nodes = nodes → (∀ f, .unusable (.failure f) ∉ s.outcomes) →
      (LacksNodes ((execute env c call).run s).2 ↔
        ∀ node ∈ nodes, ∀ c ∈ node.toList, isBlank c) ∧
      ((∀ node ∈ nodes, ¬ HasLooseSlash node) →
        (LacksNodes ((execute env c call).run s).2 ↔
          ∀ node ∈ nodes, ∀ c ∈ node.toList, isBlank c ∨ c = '/')) := by
  refine ⟨?entries, by rw [normalize_eq_self_iff, forall_usable_iff], ?none⟩
  case entries =>
    rw [Node.normalize, List.forall₂_map_right_iff, List.forall₂_same]
    intro node mem
    have present : blank node = false := by simpa using (List.mem_filter.mp mem).2
    exact ⟨trims_trim node, usable_trim_iff present⟩
  case none =>
    rintro env c call s rfl own
    refine ⟨lacksNodes_run_execute_iff own, fun tight => (lacksNodes_run_execute_iff own).trans ?_⟩
    exact forall₂_congr fun node mem =>
      ⟨fun blank c at_c => .inl (blank c at_c), blank_of_slashes (tight node mem)⟩

/-- Three nodes of which one is blank. -/
theorem normalize_usable_twoNodes :
    (∀ node ∈ twoNodes.nodes, ¬ HasLooseSlash node) ∧
    let s : Script := ⟨[.fault ⟨.connectError, "refused"⟩, .received { status := 404 }], false⟩
    ¬ LacksNodes ((execute noonEnvironment twoNodes { path := "x" }).run s).2 := by
  have tight := (normalize_usable twoNodes.nodes).2.1.mp (by decide)
  refine ⟨tight, fun lacking => ?_⟩
  have none := (((normalize_usable twoNodes.nodes).2.2 _ _ _ _ rfl (by simp)).2 tight).mp lacking
  exact absurd (none "http://b" (by decide) 'h' (by decide)) (by decide)

/-- A slash for the only node. -/
def slashNode : Connection := { nodes := ["/"], authMode := .anonymous }

/-- Of a slash alone an empty entry is left, and of one behind a blank an entry that ends in the
blank, which normalizing again takes away. A connection with a slash for its node is taken to have
one, which is asked and cannot be reached. -/
theorem loose_slashes_remain :
    Node.normalize slashNode.nodes = [""] ∧ Node.normalize ["http://h /"] = ["http://h "] ∧
    Node.normalize (Node.normalize ["http://h /"]) = ["http://h"] ∧
    (∀ node ∈ slashNode.nodes, ∀ c ∈ node.toList, isBlank c ∨ c = '/') ∧
    ((execute noonEnvironment slashNode { path := "/x" }).run
      ⟨[.fault ⟨.connectError, "refused"⟩], false⟩).2 =
        .error (.failure (.transport "" (some ⟨.connectError, "refused"⟩))) := by
  have left : Node.normalize slashNode.nodes = [""] := by decide
  have url : urlOf "" { path := "/x" } = "/x" := by decide +kernel
  have made : request noonEnvironment slashNode { path := "/x" } "" =
      .ok ⟨"GET", ⟨"", "", "", none, "/x", none, none⟩, [], .empty, some (.float 30.0)⟩ := by
    unfold request
    rw [url]
    rfl
  refine ⟨left, by decide, by decide, by simp [slashNode], ?_⟩
  rw [execute_eq_ask _ _ _ (by simp [left]), left, run_ask_of_silence made rfl]
  rfl

end Gateway

end IndexExplorer
