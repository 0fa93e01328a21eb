import IndexExplorer.Proofs.Discovery.Ask
import IndexExplorer.Proofs.Discovery.Page
import IndexExplorer.Proofs.Gateway.Failover
import IndexExplorer.Proofs.Json.Bytes

/-!
What discovery sends, and what it comes to.

* `Asks`, `Follow`: requests for pages, each with the token of the page before;
* `Reads`, `Ends`: the pages that come one after the other, and how a run ends behind them;
* `run_pages`: what happens at one page, and from it what a whole run is;
* `run_discover`: the same for discovery.
-/
namespace IndexExplorer.Discovery

/-! ## Requests for pages -/

/-- What the body of a request says: the token of the page that is asked for, if it has one. -/
def document (token : String) : Json :=
  .obj (if token = "" then [] else [("nextToken", .str token)])

/-- The request asks a URL for the page of a token. -/
structure Asks (u : Url) (token : String) (r : Request) : Prop where
  method : r.method = "POST"
  url : r.url = u
  body : Json.ofBytes r.body = .ok (document token)

variable {env : Environment} {region : String} {k : CredentialSet} {timeout token : Json}
  {u : Url} {t : String} {s : Script} {n : Nat} {found : List Collection}

theorem ofBytes_document (t : String) : Json.ofBytes (document t).bytes = .ok (document t) := by
  have writable : (document t).Writable := by
    unfold document
    rw [Json.writable_obj]
    split
    · exact ⟨List.nodup_nil, nofun⟩
    · exact ⟨List.nodup_singleton _, List.forall_mem_singleton.mpr trivial⟩
  have shallow : (document t).nesting = 1 := by
    unfold document
    split <;> rfl
  rw [Json.ofBytes_bytes writable, shallow, if_pos (by decide)]

theorem pageBody_eq (h : IsText token t) : pageBody token = document t := by
  unfold pageBody document
  by_cases none : t = ""
  · have missing : token.given = false := by simpa [none] using h.given_iff
    rw [missing, if_pos none]
    rfl
  · rw [h.given_iff.mpr none, if_neg none, h.eq_of_ne none]
    rfl

/-- A control plane whose address can be read has the URL that its region tells. -/
theorem hasAddress_of_read (wellFormed : isRegion region)
    (read : Url.read (controlPlane region) = .ok u) : HasAddress region ∧ u = home region := by
  have address : HasAddress region := by
    by_contra none
    obtain ⟨fault, unread⟩ := read_controlPlane_of_not wellFormed none
    rw [read] at unread
    cases unread
  exact ⟨address, Except.ok.inj (read.symm.trans (read_controlPlane address))⟩

/-- The request that is made for the page of a token asks for it. -/
theorem asks_of_read (wellFormed : isRegion region)
    (read : Url.read (controlPlane region) = .ok u) (env : Environment) (k : CredentialSet)
    (timeout : Json) (h : IsText token t) :
    ∃ r, request env region k timeout token = .ok r ∧ r.outgoing = r ∧ Asks u t r := by
  obtain ⟨address, rfl⟩ := hasAddress_of_read wellFormed read
  obtain ⟨r, made, out, url, method, body⟩ := request_eq address env k timeout token
  refine ⟨r, made, out, method, url, ?_⟩
  rw [body, pageBody_eq h, ofBytes_document]

/-! ## Pages one after the other -/

/-- The outcomes bring these pages one after the other, and all but the last name a next one. -/
structure Reads (u : Url) (s : Script) (ps : List Page) : Prop where
  brings : ∀ i p, ps[i]? = some p → Brings ((s.outcome i).seen u) p
  linked : ∀ p ∈ ps.dropLast, p.next ≠ ""

/-- The requests ask for pages, the first with the token given and each other with the token of the
page before. -/
def Follow (u : Url) (t : String) (ps : List Page) (sent : List Request) : Prop :=
  ∀ (i : Nat) (r : Request), sent[i]? = some r → ∃ t', (t :: ps.map Page.next)[i]? = some t' ∧ Asks u t' r

/-- How asking for up to `n` pages ends behind the pages that came: with their records, when the
last names no next or there are `n`, or with the problem that came in the place of a page. -/
inductive Ends (region : String) (u : Url) (s : Script) (n : Nat) (ps : List Page) :
    (asked : Nat) → Result (List Collection) → Prop
  | complete : ps.length ≤ n → ps.length = n ∨ (∃ p, ps.getLast? = some p ∧ p.next = "") →
      Ends region u s n ps ps.length (.ok (ps.flatMap (Page.records region)))
  | failed {e : Problem} : ps.length < n → (∀ p ∈ ps, p.next ≠ "") →
      Fails u.host ((s.outcome ps.length).seen u) e →
      Ends region u s n ps (ps.length + 1) (.error e)

variable {p : Page} {ps : List Page} {r : Request} {sent : List Request}

theorem Reads.nil : Reads u s [] := ⟨nofun, nofun⟩

theorem Reads.single (first : Brings ((s.outcome 0).seen u) p) : Reads u s [p] := by
  refine ⟨fun i q at_i => ?_, nofun⟩
  cases i with
  | zero =>
    obtain rfl : p = q := Option.some.inj at_i
    exact first
  | succ i => cases at_i

theorem Reads.cons (first : Brings ((s.outcome 0).seen u) p) (more : p.next ≠ "")
    (rest : Reads u s.next.2 ps) : Reads u s (p :: ps) := by
  constructor
  case brings =>
    intro i q at_i
    cases i with
    | zero =>
      obtain rfl : p = q := Option.some.inj at_i
      exact first
    | succ i => exact rest.brings i q at_i
  case linked =>
    cases ps with
    | nil => exact nofun
    | cons q ps =>
      rw [List.dropLast_cons_cons, List.forall_mem_cons]
      exact ⟨more, rest.linked⟩

theorem Follow.nil (t : String) (ps : List Page) : Follow u t ps [] := nofun

theorem Follow.cons (first : Asks u t r) (rest : Follow u p.next ps sent) :
    Follow u t (p :: ps) (r :: sent) := by
  intro i q at_i
  cases i with
  | zero =>
    obtain rfl : r = q := Option.some.inj at_i
    exact ⟨t, rfl, first⟩
  | succ i => exact rest i q at_i

theorem Follow.single (first : Asks u t r) (ps : List Page) : Follow u t ps [r] := by
  intro i q at_i
  cases i with
  | zero =>
    obtain rfl : r = q := Option.some.inj at_i
    exact ⟨t, rfl, first⟩
  | succ i => cases at_i

theorem Ends.cons {asked : Nat} {result : Result (List Collection)} (more : p.next ≠ "")
    (rest : Ends region u s.next.2 n ps asked result) :
    Ends region u s (n + 1) (p :: ps) (asked + 1) (result.map (p.records region ++ ·)) := by
  cases rest with
  | complete few last =>
    have done : (p :: ps).length = n + 1 ∨ ∃ q, (p :: ps).getLast? = some q ∧ q.next = "" := by
      rcases last with all | ⟨q, last, none⟩
      · exact .inl (congrArg Nat.succ all)
      · exact .inr ⟨q, by simp [List.getLast?_cons, last], none⟩
    exact .complete (Nat.succ_le_succ few) done
  | failed few linked fails =>
    have all : ∀ q ∈ p :: ps, q.next ≠ "" := List.forall_mem_cons.mpr ⟨more, linked⟩
    exact .failed (Nat.succ_lt_succ few) all fails

/-! ## Runs -/

/-- At a page that comes, its records are kept, and the next is asked for if it names one. -/
theorem run_pages_brings (n : Nat) (found : List Collection) (made : request env region k timeout token = .ok r)
    (out : r.outgoing = r) (url : r.url = u) (brings : Brings ((s.outcome 0).seen u) p) :
    ∃ next, IsText next p.next ∧
      (pages env region k timeout (n + 1) found token).run s =
        if p.next = "" then ([r], .ok (found ++ p.records region))
        else
          let rest := (pages env region k timeout n (found ++ p.records region) next).run s.next.2
          (r :: rest.1, rest.2) := by
  obtain ⟨next, named, read⟩ := pageFrom_of_brings region r brings
  refine ⟨next, named, ?_⟩
  rw [pages_succ, made]
  dsimp only
  rw [Exchange.run_send, out, url, read]
  dsimp only
  by_cases none : p.next = ""
  · have missing : next.given = false := by simpa [none] using named.given_iff
    rw [missing, if_pos none]
    rfl
  · rw [named.given_iff.mpr none, if_neg none]
    rfl

/-- At a problem nothing else is asked for, and no records are told. -/
theorem run_pages_fails {e : Problem} (made : request env region k timeout token = .ok r)
    (out : r.outgoing = r) (url : r.url = u) (fails : Fails u.host ((s.outcome 0).seen u) e) :
    (pages env region k timeout (n + 1) found token).run s = ([r], .error e) := by
  rw [← url] at fails
  rw [pages_succ, made]
  dsimp only
  rw [Exchange.run_send, out, pageFrom_of_fails region fails]
  rfl

/-- Discovery for a well-formed region asks for its pages. -/
theorem discover_eq_pages (wellFormed : isRegion region) (env : Environment) (k : CredentialSet)
    (timeout : Json) :
    discover env (.str region) k timeout =
      (pages env region k timeout pageLimit [] .null).map
        fun r => r.map (CollectionList.mk region) := by
  have given : (Json.str region).given = true := by
    by_contra empty
    obtain rfl : region = "" := by simpa [Json.given] using empty
    cases wellFormed
  unfold discover
  rw [given]
  dsimp only
  rw [wellFormed]
  rfl

/-- A problem in the place of the first page is what discovery comes to, behind one request. -/
theorem run_discover_fails {e : Problem} (address : HasAddress region) (env : Environment)
    (k : CredentialSet) (timeout : Json)
    (fails : Fails (home region).host ((s.outcome 0).seen (home region)) e) :
    ∃ r, (discover env (.str region) k timeout).run s = ([r], .error e) := by
  obtain ⟨r, made, out, asks⟩ := asks_of_read address.wellFormed (read_controlPlane address) env k
    timeout (.inr ⟨rfl, rfl⟩)
  refine ⟨r, ?_⟩
  rw [discover_eq_pages address.wellFormed, Exchange.run_map, show pageLimit = 49 + 1 from rfl,
    run_pages_fails made out asks.url fails]
  rfl

/-- Without a readable address nothing is sent. -/
theorem run_discover_unread (wellFormed : isRegion region) {fault : UrlFault}
    (unread : Url.read (controlPlane region) = .error fault) (env : Environment)
    (k : CredentialSet) (timeout : Json) (s : Script) :
    (discover env (.str region) k timeout).run s = ([], .error .badUrl) := by
  rw [discover_eq_pages wellFormed, Exchange.run_map, show pageLimit = 49 + 1 from rfl, pages_succ,
    request_of_unread unread]
  rfl

/-- A region, keys for it, and the answer that accepts a request with a value. -/
def someRegion : String := "us-east-1"

def someKey : CredentialSet := ⟨"AK", "SK", none, none, none⟩

def answerOf (v : Json) : Outcome := .received { status := 200, body := v.bytes }

theorem hasAddress_someRegion : HasAddress someRegion := by
  refine ⟨by decide +kernel, ?_, ?_⟩
  · exact Text.forall_mem_of_all (by decide +kernel)
  · decide +kernel

theorem seen_bare (status : Int) (body : ByteArray) :
    (Outcome.received { status, body }).seen (home someRegion) = .received { status, body } :=
  Outcome.seen_bare (by rfl) status body

/-- An accepted answer with a value that says what a page says brings the page. -/
theorem brings_answerOf {v : Json} (writable : v.Writable)
    (shallow : v.nesting ≤ Json.nestingLimit) (spells : p.Spells v) :
    Brings ((answerOf v).seen (home someRegion)) p := by
  unfold answerOf
  rw [seen_bare]
  refine ⟨_, v, rfl, rfl, ?_, spells⟩
  rw [Json.ofBytes_bytes writable, if_pos shallow]

/-- One with a value that is too deep is a problem. -/
theorem fails_answerOf {v : Json} {host : String} (deep : Json.ofBytes v.bytes = .error .tooDeep) :
    Fails host ((answerOf v).seen (home someRegion)) .tooDeep := by
  unfold answerOf
  rw [seen_bare]
  exact .tooDeep rfl deep

/-- What brings a page can be read, -/
theorem Brings.readable {o : Outcome} (h : Brings o p) : Readable o := by
  obtain ⟨r, v, rfl, -, body, spells⟩ := h
  intro r' v' same _ body'
  obtain rfl : r = r' := Outcome.received.inj same
  obtain rfl : v = v' := Except.ok.inj (body.symm.trans body')
  exact ⟨p, spells⟩

/-- A page with one summary, and a value that says so. -/
def onePage (id name next : String) : Page := ⟨[⟨id, name⟩], next⟩

def oneList (id name next : String) : Json := .obj
  (("collectionSummaries", .arr [.obj [("id", .str id), ("name", .str name)]]) ::
    if next = "" then [] else [("nextToken", .str next)])

theorem brings_oneList (id name next : String) :
    Brings ((answerOf (oneList id name next)).seen (home someRegion)) (onePage id name next) := by
  have summary : (Json.obj [("id", .str id), ("name", .str name)]).Writable := by
    rw [Json.writable_obj, List.forall_mem_cons, List.forall_mem_singleton]
    exact ⟨by simp, trivial, trivial⟩
  have spelled : List.Forall₂ Summary.Spells [.obj [("id", .str id), ("name", .str name)]]
      (onePage id name next).summaries := .cons ⟨_, rfl, .inl rfl, .inl rfl⟩ .nil
  have shallow : 3 ≤ Json.nestingLimit := by decide
  unfold oneList
  by_cases none : next = ""
  · rw [if_pos none]
    refine brings_answerOf ?_ shallow ⟨_, rfl, .inr ⟨rfl, none⟩, .inr ⟨_, rfl, spelled⟩⟩
    rw [Json.writable_obj, List.forall_mem_singleton, Json.writable_arr, List.forall_mem_singleton]
    exact ⟨by simp, summary⟩
  · rw [if_neg none]
    refine brings_answerOf ?_ shallow ⟨_, rfl, .inl rfl, .inr ⟨_, rfl, spelled⟩⟩
    rw [Json.writable_obj, List.forall_mem_cons, List.forall_mem_singleton, Json.writable_arr,
      List.forall_mem_singleton]
    exact ⟨by simp, summary, trivial⟩

/-- An object that lists no summaries and has no token, with more lists inside than are read. -/
def deepPage : Json :=
  .obj [("collectionSummaries", .arr []), ("x", Json.tower Json.nestingLimit)]

theorem spells_deepPage : (Page.mk [] "").Spells deepPage :=
  ⟨_, rfl, .inr ⟨rfl, rfl⟩, .inr ⟨[], rfl, .nil⟩⟩

/-- A region with a name of any length. -/
def longName (n : Nat) : String :=
  String.ofList (['u', 's'] ++ '-' :: (List.replicate n 'a' ++ '-' :: ['1']))

theorem isRegion_longName (n : Nat) : isRegion (longName (n + 1)) := by
  have letters : ∀ c ∈ List.replicate (n + 1) 'a', c = 'a' := fun c mem =>
    List.eq_of_mem_replicate mem
  have word : '-' ∉ List.replicate (n + 1) 'a' := fun mem => by
    cases letters _ mem
  have parts : Ip.splitAt '-' (longName (n + 1)).toList =
      [['u', 's'], List.replicate (n + 1) 'a', ['1']] := by
    rw [longName, String.toList_ofList, Ip.splitAt_append_sep, Ip.splitAt_append_sep,
      Ip.splitAt_of_notMem word]
    rfl
  have small : (List.replicate (n + 1) 'a').all isSmallLetter := by
    rw [List.all_eq_true]
    intro c mem
    obtain rfl := letters c mem
    decide
  have ends : isSmallLetter 'u' ∧ isSmallLetter 's' ∧ Text.isDigit '1' := by decide
  unfold isRegion
  rw [parts]
  simp [small, ends]

theorem length_longName (n : Nat) : (longName n).toList.length = n + 5 := by
  rw [longName, String.toList_ofList]
  simp

theorem unread_longName : ∃ fault,
    Url.read (controlPlane (longName (Url.lengthLimit + 1))) = .error fault := by
  refine read_controlPlane_of_not (isRegion_longName _) fun address => ?_
  have long := address.short
  rw [toList_controlPlane, toList_hostName] at long
  simp only [List.length_append, length_longName] at long
  omega

theorem tooDeep_deepPage : Json.ofBytes deepPage.bytes = .error .tooDeep := by
  have writable : deepPage.Writable := by
    rw [deepPage, Json.writable_obj, List.forall_mem_cons, List.forall_mem_singleton]
    exact ⟨by simp, trivial, Json.writable_tower _⟩
  have deep : ¬ deepPage.nesting ≤ Json.nestingLimit := by
    have inner : deepPage.nesting = max 1 (max (Json.tower Json.nestingLimit).nesting 0) + 1 := rfl
    rw [inner, Json.nesting_tower]
    omega
  rw [Json.ofBytes_bytes writable, if_neg deep]

end IndexExplorer.Discovery
