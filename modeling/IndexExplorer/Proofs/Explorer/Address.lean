import IndexExplorer.Explorer
import IndexExplorer.Proofs.Gateway.Sent
import IndexExplorer.Proofs.Query.Document
import IndexExplorer.Proofs.Text.Percent
import IndexExplorer.Proofs.Url.Normal

/-!
Where operations on an index go.

The name of the index is put into the path as it is, between two slashes. What the engine is asked
for is then read from the URL as a whole.

* `IsSegment`: the names that are read as one segment, which stands for the name;
* `addresses_of_read`, `isSegment_of_addresses`: with such a name the URL is that of the node with
  two segments behind its path, and with no other name it is;
* `operations_address_index`: so it is for all searches and requests for the mapping;
* `names_leave_segment`: how other names lead elsewhere.
-/
namespace IndexExplorer

open Text UrlParts

namespace Explorer

/-- A name that is read as one segment of a path, and decoded to itself. -/
structure IsSegment (name : String) : Prop where
  whole : '/' ∉ name.toList
  query : '?' ∉ name.toList
  fragment : '#' ∉ name.toList
  named : ¬ Url.IsDots name.toList
  unescaped : Percent.hasEscape name.toList = false

/-- A URL below which an engine's own addresses are: it has a scheme and a host, and nothing behind
its path. -/
structure IsBase (u : Url) : Prop where
  scheme : u.scheme ≠ ""
  host : u.host ≠ ""
  query : u.query = none
  fragment : u.fragment = none

/-- Two segments of a path. -/
def pathTo (name operation : String) : String := "/" ++ name ++ "/" ++ operation

/-- Behind the path of a URL there are two segments and nothing else: one that stands for a name,
and an operation. -/
def Addresses (base : Url) (name operation : String) (target : Url) : Prop :=
  ∃ segment, target = { base with path := base.path ++ pathTo segment operation } ∧
    '/' ∉ segment.toList ∧ Percent.decode segment = name

/-- An operation whose name may stand in a path as it is. -/
structure IsOperation (operation : String) : Prop where
  whole : '/' ∉ operation.toList
  named : ¬ Url.IsDots operation.toList
  plain : ∀ c ∈ operation.toList, Url.inPath c

theorem toList_pathTo (name operation : String) :
    (pathTo name operation).toList = '/' :: name.toList ++ '/' :: operation.toList := by
  simp [pathTo]

theorem stops_pathTo (name operation : String) :
    Stops (· = '/') (pathTo name operation).toList := by
  rw [toList_pathTo]
  exact stops_cons (by rfl) _

theorem addresses_of_read {base : String} {u v : Url} {name operation : String}
    (segment : IsSegment name) (known : IsOperation operation) (own : Url.read base = .ok u)
    (below : IsBase u) (whole : Url.read (base ++ pathTo name operation) = .ok v) :
    Addresses u name operation v := by
  have plain : ∀ c ∈ (pathTo name operation).toList, Url.endsPath c = false := by
    intro c mem
    rw [toList_pathTo, List.mem_append, List.mem_cons, List.mem_cons] at mem
    by_contra ends
    simp only [Url.endsPath, Bool.not_eq_false, Bool.or_eq_true, decide_eq_true_eq] at ends
    rcases mem with (slash | mem) | slash | mem
    · rcases ends with rfl | rfl <;> cases slash
    · rcases ends with rfl | rfl
      · exact segment.query mem
      · exact segment.fragment mem
    · rcases ends with rfl | rfl <;> cases slash
    · rcases ends with rfl | rfl <;> exact absurd (known.plain _ mem) (by decide)
  obtain ⟨front, front_rooted, front_path, rfl⟩ := Url.read_append _ own below.scheme below.host
    below.query below.fragment (stops_pathTo name operation) plain whole
  have kept : Url.normalPath (front ++ (pathTo name operation).toList) =
      (Url.normalPath front ++ '/' :: name.toList) ++ '/' :: operation.toList := by
    rw [toList_pathTo, ← List.append_assoc,
      Url.normalPath_append (front_rooted.append (stops_cons (by rfl) _)) known.whole known.named,
      Url.normalPath_append front_rooted segment.whole segment.named]
  refine ⟨Percent.encode Url.inPath name, ?_, ?_, Percent.decode_encode _ segment.unescaped⟩
  · have slash : Percent.written Url.inPath '/' = ['/'] := by rfl
    have last : operation.toList.flatMap (Percent.written Url.inPath) = operation.toList :=
      Percent.flatMap_of_kept known.plain
    have below_path : Percent.encode Url.inPath
        (String.ofList (Url.normalPath (front ++ (pathTo name operation).toList))) =
          u.path ++ pathTo (Percent.encode Url.inPath name) operation := by
      rw [kept, front_path, ← String.toList_inj]
      simp [pathTo, Percent.toList_encode, slash, last]
    rw [below_path]
  · intro mem
    rcases Percent.mem_encode mem with ⟨slash, -⟩ | mark
    · exact segment.whole slash
    · exact absurd mark (by decide)

theorem digits_inPath : ∀ c, (Percent.value? c).isSome → Url.inPath c := by
  intro c digit
  have ascii : c.toNat < 0x80 := by
    unfold Percent.value? at digit
    split_ifs at digit with decimal small large
    · exact Url.ascii_of_isAlphanum (by simp [Char.isAlphanum, decimal])
    · have top : c.toNat ≤ 102 := small.2
      omega
    · have top : c.toNat ≤ 70 := large.2
      omega
    · cases digit
  have all : ∀ n : Fin 0x80, (Percent.value? (Char.ofNat n.val)).isSome = true →
      Url.inPath (Char.ofNat n.val) = true := by decide
  exact Url.forall_ascii (p := fun c => (Percent.value? c).isSome = true → Url.inPath c = true) all
    ascii digit

theorem slash_notMem_written (c : Char) (other : c ≠ '/') : '/' ∉ Percent.written Url.inPath c := by
  unfold Percent.written
  split
  · simpa using other.symm
  · obtain ⟨tail, shape, marks⟩ := Percent.ofChar_eq_cons c
    rw [shape, List.mem_cons, not_or]
    exact ⟨by decide, fun mem => absurd (marks _ mem) (by decide)⟩

/-- When the path of an operation is written as two segments behind another, then the path in front
of the operation is written with one. -/
theorem written_of_paths {front : List Char} {name segment operation : String}
    (known : IsOperation operation) (rooted : Stops (· = '/') front)
    (same : Percent.encode Url.inPath
        (String.ofList (Url.normalPath (front ++ (pathTo name operation).toList))) =
      Percent.encode Url.inPath (String.ofList (Url.normalPath front)) ++
        pathTo segment operation) :
    (Url.normalPath (front ++ '/' :: name.toList)).flatMap (Percent.written Url.inPath) =
      (Url.normalPath front).flatMap (Percent.written Url.inPath) ++ '/' :: segment.toList := by
  have slash : Percent.written Url.inPath '/' = ['/'] := by rfl
  have last := Percent.flatMap_of_kept known.plain
  rw [toList_pathTo, ← List.append_assoc,
    Url.normalPath_append (rooted.append (stops_cons (by rfl) _)) known.whole known.named,
    ← String.toList_inj] at same
  simp only [Percent.toList_encode, String.toList_ofList, String.toList_append, toList_pathTo,
    List.flatMap_append, List.flatMap_cons, slash, last] at same
  exact List.append_cancel_right (same.trans (List.append_assoc ..).symm)

/-- A name that a part of it is decoded to is a segment: what a part is decoded to is no longer than
the part, and shorter when there are escapes in it. -/
theorem isSegment_of_part {name : String} {part : List Char}
    (mem : part ∈ Ip.splitAt '/' name.toList) (named : ¬ Url.IsDots part)
    (plain : ∀ c ∈ name.toList, Url.endsPath c = false)
    (decoded : Percent.decode (Percent.encode Url.inPath (String.ofList part)) = name) :
    IsSegment name := by
  obtain ⟨bounded, escaped⟩ := Percent.length_decode_encode (by rfl) digits_inPath decoded
  rw [String.length_ofList, ← String.length_toList] at bounded escaped
  have undivided : '/' ∉ name.toList := by
    intro slash
    have shorter := Ip.length_lt_of_mem_splitAt slash mem
    omega
  obtain rfl : part = name.toList := by
    rw [Ip.splitAt_of_notMem undivided] at mem
    exact List.mem_singleton.mp mem
  refine ⟨undivided, ?_, ?_, named, ?_⟩
  · exact fun mark => absurd (plain _ mark) (by decide)
  · exact fun mark => absurd (plain _ mark) (by decide)
  · by_contra escape
    rw [Bool.not_eq_false] at escape
    have shorter := escaped (by simpa using escape)
    omega

/-- No other name is read so. -/
theorem isSegment_of_addresses {base : String} {u v : Url} {name operation : String}
    (known : IsOperation operation) (own : Url.read base = .ok u) (below : IsBase u)
    (whole : Url.read (base ++ pathTo name operation) = .ok v)
    (addressed : Addresses u name operation v) : IsSegment name := by
  obtain ⟨segment, at_v, apart, decoded⟩ := addressed
  have plain : ∀ c ∈ (base ++ pathTo name operation).toList, Url.endsPath c = false :=
    Url.not_endsPath_of_read whole (by rw [at_v]; exact below.scheme)
      (by rw [at_v]; exact below.host) (by rw [at_v]; exact below.query)
      (by rw [at_v]; exact below.fragment)
  have plain_path : ∀ c ∈ (pathTo name operation).toList, Url.endsPath c = false := fun c mem =>
    plain c (by rw [String.toList_append]; exact List.mem_append_right _ mem)
  obtain ⟨front, rooted, front_path, e⟩ := Url.read_append _ own below.scheme below.host
    below.query below.fragment (stops_pathTo name operation) plain_path whole
  have paths := congrArg Url.path (e.symm.trans at_v)
  dsimp only at paths
  rw [front_path] at paths
  obtain ⟨part, mem, named, writes⟩ := Url.segment_of_normalPath rooted (by rfl)
    slash_notMem_written apart (written_of_paths known rooted paths)
  have encoded : Percent.encode Url.inPath (String.ofList part) = segment := by
    rw [← String.toList_inj, Percent.toList_encode, String.toList_ofList, writes]
  refine isSegment_of_part mem named (fun c mem => plain_path c ?_) (by rw [encoded, decoded])
  rw [toList_pathTo]
  simp [mem]

/-! ## Runs -/

/-- The requests of a run have a method, and each goes to an operation on the index below the URL of
its node if the name of the index is a segment, and only then. -/
def GoTo (c : Connection) (method operation : String) (requests : List Request) : Prop :=
  ∀ (i : Nat) (r : Request), requests[i]? = some r →
    ∃ node, (Node.normalize c.nodes)[i]? = some node ∧ r.method = method ∧
      ∀ u, Url.read node = .ok u → IsBase u →
        (Addresses u c.index operation r.url ↔ IsSegment c.index)

theorem rooted_pathTo (name operation : String) :
    Node.rooted (pathTo name operation) = pathTo name operation := by
  have slash : (pathTo name operation).startsWith "/" = true := by
    rw [String.startsWith_string_iff]
    simp [pathTo]
  rw [Node.rooted, if_pos slash]

theorem goTo_execute {env : Environment} {c : Connection} {operation method : String}
    {content : Content} (known : IsOperation operation) (upper : Text.upper method = method)
    (s : Script) :
    GoTo c method operation ((Gateway.execute env c {
      path := pathTo c.index operation, method := .str method, content }).run s).1 := by
  intro i sent asked
  obtain ⟨node, made, at_i, attempt, rfl⟩ := Gateway.sent_of_run_execute asked
  refine ⟨node, at_i, ?_, ?_⟩
  · obtain ⟨given, e, name⟩ := Gateway.method_of_request attempt
    obtain rfl : method = given := Json.str.inj e
    rw [Request.method_outgoing, name, upper]
  · intro u own below
    have whole := Gateway.url_of_request attempt
    rw [Gateway.urlOf, rooted_pathTo] at whole
    rw [Request.url_outgoing]
    exact ⟨isSegment_of_addresses known own below whole, fun segment =>
      addresses_of_read segment known own below whole⟩

theorem isOperation_search : IsOperation "_search" :=
  ⟨by decide, by decide, forall_mem_of_all (by decide)⟩

theorem isOperation_mapping : IsOperation "_mapping" :=
  ⟨by decide, by decide, forall_mem_of_all (by decide)⟩

variable {env : Environment} {c : Connection} {f : FilterState} {s : Script}

/-- The call of a search. -/
def searchCall (c : Connection) (q : Query) : Gateway.Call where
  path := "/" ++ c.index ++ "/_search"
  method := .str "POST"
  content := .document q.toJson

/-- The call for the mapping of the connection's index. -/
def mappingCall (c : Connection) : Gateway.Call where
  path := "/" ++ c.index ++ "/_mapping"

/-- A search is one call, and the page in its answer. -/
theorem run_search_eq {q : Query} (real : c.demoMode = false) (made : Query.compile f c = .ok q) :
    (search env c f).run s = (((Gateway.execute env c (searchCall c q)).run s).1,
      ((Gateway.execute env c (searchCall c q)).run s).2 >>= fun reply => pageOf f reply.data) := by
  simp only [search, real, made, Operation.andThen]
  exact Exchange.run_map ..

/-- The leaf fields of an index in an answer. -/
def fieldsOf (index : String) (v : Json) : Result (List FieldDefinition) :=
  Mapping.properties v (.str index) >>= fun block => Mapping.flatten block ""

/-- A mapping is one call, and the fields in its answer. -/
theorem run_mapping_eq (real : c.demoMode = false) :
    (mapping env c).run s = (((Gateway.execute env c (mappingCall c)).run s).1,
      ((Gateway.execute env c (mappingCall c)).run s).2 >>= fun reply =>
        fieldsOf c.index reply.data) := by
  simp only [mapping, real, Operation.andThen]
  exact Exchange.run_map ..

theorem pathTo_eq (name operation : String) : "/" ++ name ++ ("/" ++ operation) =
    pathTo name operation := by
  simp [pathTo, ← String.toList_inj]

/-- The requests of a search are those of one call. -/
theorem run_search {q : Query} (real : c.demoMode = false) (made : Query.compile f c = .ok q) :
    ((search env c f).run s).1 = ((Gateway.execute env c {
      path := pathTo c.index "_search"
      method := .str "POST"
      content := .document q.toJson }).run s).1 := by
  rw [run_search_eq real made, ← pathTo_eq]
  rfl

theorem run_mapping (real : c.demoMode = false) :
    ((mapping env c).run s).1 =
      ((Gateway.execute env c { path := pathTo c.index "_mapping" }).run s).1 := by
  rw [run_mapping_eq real, ← pathTo_eq]
  rfl

theorem goTo_nil (method operation : String) : GoTo c method operation [] := by
  intro i r asked
  cases asked

/-- **Where operations go.** Every search is a `POST` to `_search` of the index at the node that is
asked, and every request for the mapping a `GET` of its `_mapping`, whatever else is given and
whatever comes back, if the name of the index is a segment of its own. No other name leads there.
-/
theorem operations_address_index (env : Environment) (c : Connection) (f : FilterState)
    (s : Script) :
    GoTo c "POST" "_search" ((search env c f).run s).1 ∧
      GoTo c "GET" "_mapping" ((mapping env c).run s).1 := by
  cases demo : c.demoMode with
  | true =>
    simp only [search, mapping, demo, ↓reduceIte]
    exact ⟨goTo_nil _ _, goTo_nil _ _⟩
  | false =>
    constructor
    · cases made : Query.compile f c with
      | error p =>
        simp only [search, demo, made]
        exact goTo_nil _ _
      | ok q =>
        rw [run_search demo made]
        exact goTo_execute isOperation_search (by decide) s
    · rw [run_mapping demo]
      exact goTo_execute isOperation_mapping (by decide) s

/-! ## Names at one node -/

/-- An index at a node that anyone may ask. -/
def ofIndex (name : String) : Connection :=
  { nodes := ["http://h/"], authMode := .anonymous, index := name }

/-- The URL of this node. -/
def hostUrl : Url := ⟨"http", "", "h", none, "", none, none⟩

theorem normalize_ofIndex (name : String) :
    Node.normalize (ofIndex name).nodes = ["http://h"] := by
  have trimmed : Node.normalize ["http://h/"] = ["http://h"] := by decide
  exact trimmed

/-- An operation is asked for at the URL that is read from the text. -/
theorem first_of_execute {name operation : String} {v : Url} (method : String)
    {content : Content} (fits : content.fits)
    (read : Url.read ("http://h" ++ pathTo name operation) = .ok v) (s : Script) :
    ∃ sent : Request, ((Gateway.execute Gateway.noonEnvironment (ofIndex name) {
        path := pathTo name operation, method := .str method, content }).run s).1[0]? = some sent ∧
      sent.method = Text.upper method ∧ sent.url = v := by
  obtain ⟨fields, given⟩ := Request.ofGiven_declaredFields content
  rw [← rooted_pathTo] at read
  obtain ⟨built, build, at_method, at_url⟩ : ∃ built,
      Request.build (.str method) (.str ("http://h" ++ Node.rooted (pathTo name operation))) content
        .null (.ofOption .float (ofIndex name).timeout) = .ok built ∧
        built.method = Text.upper method ∧ built.url = v :=
    ⟨_, Request.build_eq_ok_iff.mpr ⟨method, [], rfl, rfl, fits,
      Request.make_eq_ok_iff.mpr ⟨v, fields, read, given, rfl⟩⟩, rfl, rfl⟩
  have attempt : Gateway.request Gateway.noonEnvironment (ofIndex name)
      { path := pathTo name operation, method := .str method, content } "http://h" = .ok built :=
    Gateway.request_eq_ok_iff.mpr ⟨none, built, rfl, build, rfl⟩
  refine ⟨_, Gateway.run_execute_first (normalize_ofIndex name) attempt s, ?_, ?_⟩
  · rw [Request.method_outgoing, at_method]
  · rw [Request.url_outgoing, at_url]

theorem first_of_search (name : String) {v : Url}
    (read : Url.read ("http://h" ++ pathTo name "_search") = .ok v) (s : Script) :
    ∃ sent : Request, ((search Gateway.noonEnvironment (ofIndex name) {}).run s).1[0]? = some sent ∧
      sent.method = "POST" ∧ sent.url = v := by
  obtain ⟨q, made⟩ : ∃ q, Query.compile {} (ofIndex name) = .ok q := ⟨_, rfl⟩
  have upper : Text.upper "POST" = "POST" := by decide
  rw [run_search rfl made, ← upper]
  exact first_of_execute _ q.fits_toJson read s

theorem first_of_mapping (name : String) {v : Url}
    (read : Url.read ("http://h" ++ pathTo name "_mapping") = .ok v) (s : Script) :
    ∃ sent : Request, ((mapping Gateway.noonEnvironment (ofIndex name)).run s).1[0]? = some sent ∧
      sent.method = "GET" ∧ sent.url = v := by
  have upper : Text.upper "GET" = "GET" := by decide
  rw [run_mapping rfl, ← upper]
  exact first_of_execute _ rfl read s

theorem read_hostUrl : Url.read "http://h" = .ok hostUrl := by decide +kernel

theorem isBase_hostUrl : IsBase hostUrl := ⟨by decide, by decide, rfl, rfl⟩

theorem GoTo.first {name method operation : String} {requests : List Request} {sent : Request}
    (go : GoTo (ofIndex name) method operation requests) (first : requests[0]? = some sent) :
    Addresses hostUrl name operation sent.url ↔ IsSegment name := by
  obtain ⟨node, at_first, -, addressed⟩ := go 0 sent first
  rw [normalize_ofIndex] at at_first
  obtain rfl : "http://h" = node := Option.some.inj at_first
  exact addressed hostUrl read_hostUrl isBase_hostUrl

/-- A blank in a name is encoded, and stays in its segment. -/
theorem operations_address_spaced :
    IsSegment (ofIndex "my logs").index ∧
    (∃ sent : Request, ((search Gateway.noonEnvironment (ofIndex "my logs") {}).run
        ⟨[], false⟩).1[0]? = some sent ∧
      sent.url = { hostUrl with path := "/my%20logs/_search" } ∧
      Addresses hostUrl "my logs" "_search" sent.url) ∧
    (∃ sent : Request, ((mapping Gateway.noonEnvironment (ofIndex "my logs")).run
        ⟨[], false⟩).1[0]? = some sent ∧
      sent.url = { hostUrl with path := "/my%20logs/_mapping" } ∧
      Addresses hostUrl "my logs" "_mapping" sent.url) := by
  have segment : IsSegment "my logs" :=
    ⟨by decide, by decide, by decide, by decide, by decide⟩
  obtain ⟨searches, mappings⟩ :=
    operations_address_index Gateway.noonEnvironment (ofIndex "my logs") {} ⟨[], false⟩
  have read_search : Url.read ("http://h" ++ pathTo "my logs" "_search") =
      .ok { hostUrl with path := "/my%20logs/_search" } := by decide +kernel
  have read_mapping : Url.read ("http://h" ++ pathTo "my logs" "_mapping") =
      .ok { hostUrl with path := "/my%20logs/_mapping" } := by decide +kernel
  obtain ⟨a, first_search, -, url_search⟩ := first_of_search "my logs" read_search ⟨[], false⟩
  obtain ⟨b, first_mapping, -, url_mapping⟩ := first_of_mapping "my logs" read_mapping ⟨[], false⟩
  exact ⟨segment, ⟨a, first_search, url_search, (searches.first first_search).mpr segment⟩,
    ⟨b, first_mapping, url_mapping, (mappings.first first_mapping).mpr segment⟩⟩

theorem first_of_other {name : String} {v : Url}
    (read : Url.read ("http://h" ++ pathTo name "_search") = .ok v) (other : ¬ IsSegment name)
    (s : Script) :
    ∃ sent : Request, ((search Gateway.noonEnvironment (ofIndex name) {}).run s).1[0]? = some sent ∧
      sent.method = "POST" ∧ sent.url = v ∧ ¬ Addresses hostUrl name "_search" sent.url := by
  obtain ⟨sent, first, method, url⟩ := first_of_search name read s
  refine ⟨sent, first, method, url, fun addressed => other ?_⟩
  rw [url] at addressed
  exact isSegment_of_addresses isOperation_search read_hostUrl isBase_hostUrl read addressed

/-- How other names lead elsewhere: a slash divides the name in two, a question mark or a number
sign ends the path, dots drop the segment, and an escape is decoded to another name. -/
theorem names_leave_segment :
    (∃ sent : Request, ((search Gateway.noonEnvironment (ofIndex "logs/_delete_by_query?q=") {}).run
        ⟨[], false⟩).1[0]? = some sent ∧ sent.method = "POST" ∧
      sent.url = { hostUrl with path := "/logs/_delete_by_query", query := some "q=/_search" } ∧
      ¬ Addresses hostUrl "logs/_delete_by_query?q=" "_search" sent.url) ∧
    (∃ sent : Request, ((search Gateway.noonEnvironment (ofIndex "a/b") {}).run ⟨[], false⟩).1[0]? =
        some sent ∧ sent.method = "POST" ∧
      sent.url = { hostUrl with path := "/a/b/_search" } ∧
      ¬ Addresses hostUrl "a/b" "_search" sent.url) ∧
    (∃ sent : Request, ((search Gateway.noonEnvironment (ofIndex "a#") {}).run ⟨[], false⟩).1[0]? =
        some sent ∧ sent.method = "POST" ∧
      sent.url = { hostUrl with path := "/a", fragment := some "/_search" } ∧
      ¬ Addresses hostUrl "a#" "_search" sent.url) ∧
    (∃ sent : Request, ((search Gateway.noonEnvironment (ofIndex "..") {}).run ⟨[], false⟩).1[0]? =
        some sent ∧ sent.method = "POST" ∧
      sent.url = { hostUrl with path := "/_search" } ∧
      ¬ Addresses hostUrl ".." "_search" sent.url) ∧
    (∃ sent : Request, ((search Gateway.noonEnvironment (ofIndex "%61") {}).run ⟨[], false⟩).1[0]? =
        some sent ∧ sent.method = "POST" ∧
      sent.url = { hostUrl with path := "/%61/_search" } ∧
      ¬ Addresses hostUrl "%61" "_search" sent.url) := by
  refine ⟨?query, ?slash, ?fragment, ?dots, ?escape⟩
  case query =>
    have read : Url.read ("http://h" ++ pathTo "logs/_delete_by_query?q=" "_search") =
        .ok { hostUrl with path := "/logs/_delete_by_query", query := some "q=/_search" } := by
      decide +kernel
    exact first_of_other read (fun segment => segment.query (by decide)) _
  case slash =>
    have read : Url.read ("http://h" ++ pathTo "a/b" "_search") =
        .ok { hostUrl with path := "/a/b/_search" } := by decide +kernel
    exact first_of_other read (fun segment => segment.whole (by decide)) _
  case fragment =>
    have read : Url.read ("http://h" ++ pathTo "a#" "_search") =
        .ok { hostUrl with path := "/a", fragment := some "/_search" } := by decide +kernel
    exact first_of_other read (fun segment => segment.fragment (by decide)) _
  case dots =>
    have read : Url.read ("http://h" ++ pathTo ".." "_search") =
        .ok { hostUrl with path := "/_search" } := by decide +kernel
    exact first_of_other read (fun segment => segment.named (by decide)) _
  case escape =>
    have read : Url.read ("http://h" ++ pathTo "%61" "_search") =
        .ok { hostUrl with path := "/%61/_search" } := by decide +kernel
    exact first_of_other read (fun segment => absurd segment.unescaped (by decide)) _

end Explorer

end IndexExplorer
