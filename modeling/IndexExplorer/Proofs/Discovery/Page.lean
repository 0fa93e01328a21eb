import IndexExplorer.Discovery
import Mathlib.Data.List.Forall2

/-!
Pages of collections, and what the outcome of asking for one means.

* `Page`: what a page says, and `Page.Spells`, the JSON values that say it;
* `Brings`, `Fails`: the outcomes that are a page, and the rules by which the others are a problem;
* `readPage_of_spells`: a page is read as the records of its summaries and the token of the next;
* `pageFrom_of_brings`, `pageFrom_of_fails`, `brings_or_fails`: every outcome is one or the other;
* `answer_of_pageFrom`: a page is read from nothing but an accepted answer with an object.
-/
namespace IndexExplorer.Discovery

/-! ## What pages say -/

/-- A summary of a collection. An empty id or name stands for none. -/
structure Summary where
  id : String
  name : String

/-- A page of summaries, and the token of the next page, which is empty when there is none. -/
structure Page where
  summaries : List Summary
  next : String

/-- The value stands for a text; null may stand for the empty one. -/
def IsText (v : Json) (text : String) : Prop := v = .str text ∨ v = .null ∧ text = ""

/-- The value is an object that says what a summary says. -/
def Summary.Spells (v : Json) (s : Summary) : Prop :=
  ∃ ms : Members, v = .obj ms ∧ IsText (ms.getOrNull "id") s.id ∧ IsText (ms.getOrNull "name") s.name

/-- The value is an object that says what a page says. -/
def Page.Spells (v : Json) (p : Page) : Prop :=
  ∃ ms : Members, v = .obj ms ∧ IsText (ms.getOrNull "nextToken") p.next ∧
    (ms.getOrNull "collectionSummaries" = .null ∧ p.summaries = [] ∨
      ∃ items, ms.getOrNull "collectionSummaries" = .arr items ∧
        List.Forall₂ Summary.Spells items p.summaries)

/-- The record of the collection that a summary is about, if it has an id. -/
def Summary.record? (region : String) (s : Summary) : Option Collection :=
  if s.id = "" then none
  else some ⟨if s.name = "" then s.id else s.name, s.id,
    "https://" ++ s.id ++ "." ++ region ++ ".aoss.amazonaws.com"⟩

/-- The records of a page, in order. -/
def Page.records (region : String) (p : Page) : List Collection :=
  p.summaries.filterMap (Summary.record? region)

/-! ## Reading them -/

theorem IsText.given_iff {v : Json} {text : String} (h : IsText v text) :
    v.given = true ↔ text ≠ "" := by
  rcases h with rfl | ⟨rfl, rfl⟩
  · simp [Json.given]
  · simp [Json.given]

theorem IsText.eq_of_ne {v : Json} {text : String} (h : IsText v text) (some : text ≠ "") :
    v = .str text := by
  rcases h with spelled | ⟨-, none⟩
  · exact spelled
  · exact absurd none some

theorem endpoint_eq (id region : String) :
    endpoint id region = "https://" ++ id ++ "." ++ region ++ ".aoss.amazonaws.com" := by
  simp [endpoint, Service.serverless, String.append_assoc]

variable (region : String)

theorem collectionOf_of_spells {v : Json} {s : Summary} (h : s.Spells v) :
    collectionOf region v = .ok (s.record? region) := by
  obtain ⟨ms, rfl, id, name⟩ := h
  unfold collectionOf Summary.record?
  dsimp only
  by_cases none : s.id = ""
  · have missing : (ms.getOrNull "id").given = false := by
      simpa [none] using id.given_iff
    rw [if_pos none, missing]
    rfl
  · rw [if_neg none, if_neg (by simpa using id.given_iff.mpr none), id.eq_of_ne none,
      ← endpoint_eq]
    by_cases unnamed : s.name = ""
    · have missing : (ms.getOrNull "name").given = false := by
        simpa [unnamed] using name.given_iff
      rw [missing, if_pos unnamed]
      rfl
    · rw [name.given_iff.mpr unnamed, if_neg unnamed, name.eq_of_ne unnamed]
      rfl

theorem collectionsFrom_of_spells {items : List Json} {summaries : List Summary}
    (h : List.Forall₂ Summary.Spells items summaries) :
    collectionsFrom region items = .ok (summaries.filterMap (Summary.record? region)) := by
  induction h with
  | nil => rfl
  | @cons v s items summaries first _ ih =>
    simp only [collectionsFrom, collectionOf_of_spells region first, ih, bind, Except.bind, pure,
      Except.pure]
    cases found : s.record? region with
    | none => rw [List.filterMap_cons_none found, Option.toList_none, List.nil_append]
    | some c => rw [List.filterMap_cons_some found, Option.toList_some, List.singleton_append]

/-- A page is read as its records and the token of the next page. -/
theorem readPage_of_spells {v : Json} {p : Page} (h : p.Spells v) :
    ∃ next, IsText next p.next ∧ readPage region v = .ok (p.records region, next) := by
  obtain ⟨ms, rfl, token, listed⟩ := h
  refine ⟨_, token, ?_⟩
  rcases listed with ⟨none, empty⟩ | ⟨items, some, each⟩
  · simp only [readPage, none, Page.records, empty]
    rfl
  · have found := collectionsFrom_of_spells region each
    simp only [readPage, some, found, Page.records, bind, Except.bind]
    cases items with
    | nil =>
      rw [List.forall₂_nil_left_iff.mp each]
      rfl
    | cons v items => rfl

/-! ## Outcomes -/

/-- The outcome is an answer whose body says what a page says. -/
def Brings (o : Outcome) (p : Page) : Prop :=
  ∃ r v, o = .received r ∧ r.isSuccess = true ∧ Json.ofBytes r.body = .ok v ∧ p.Spells v

/-- If the outcome is an accepted answer with a value, then with one that says what a page says. -/
def Readable (o : Outcome) : Prop :=
  ∀ r v, o = .received r → r.isSuccess = true → Json.ofBytes r.body = .ok v →
    ∃ p : Page, p.Spells v

/-- The rules by which the outcome of asking a host is a problem. -/
inductive Fails (host : String) : Outcome → Problem → Prop
  /-- A host that cannot be reached, an answer that refuses, and a body that is no value are told
  about as such, the second with its status, and the last two with their text. -/
  | unreached {f : SendFault} : f.kind.isTransport = true →
      Fails host (.fault f)
        (.failure (.discovery ("Could not reach " ++ host ++ ": " ++ f.text) none ""))
  | refused {r : Response} {text : String} : r.isSuccess = false → r.text = .ok text →
      Fails host (.received r)
        (.failure (.discovery
          ("AWS API error (" ++ toString r.status ++ "): " ++ String.ofList (text.toList.take 500))
          (some r.status) text))
  | valueless {r : Response} {e : Json.ByteFault} {text : String} : r.isSuccess = true →
      Json.ofBytes r.body = .error e → e ≠ .tooDeep → r.text = .ok text →
      Fails host (.received r)
        (.failure (.discovery "ListCollections returned a non-JSON body" none text))
  /-- Where no text can be told, that is the problem. -/
  | unrefused {r : Response} {p : Problem} : r.isSuccess = false → r.text = .error p →
      Fails host (.received r) p
  | unread {r : Response} {e : Json.ByteFault} {p : Problem} : r.isSuccess = true →
      Json.ofBytes r.body = .error e → e ≠ .tooDeep → r.text = .error p →
      Fails host (.received r) p
  | tooDeep {r : Response} : r.isSuccess = true → Json.ofBytes r.body = .error .tooDeep →
      Fails host (.received r) .tooDeep
  /-- What is neither an answer nor a host that cannot be reached is told as it is. -/
  | fault {f : SendFault} : f.kind.isTransport = false → Fails host (.fault f) (.sending f)
  | unusable {p : Problem} : Fails host (.unusable p) p

theorem pageFrom_of_value (r : Request) {answer : Response} {v : Json}
    (success : answer.isSuccess = true) (body : Json.ofBytes answer.body = .ok v) :
    pageFrom r (.received answer) = .ok v := by
  simp only [pageFrom, pageOf, success, body]
  rfl

theorem pageFrom_of_brings (r : Request) {o : Outcome} {p : Page} (h : Brings o p) :
    ∃ next, IsText next p.next ∧
      (pageFrom r o >>= readPage region) = .ok (p.records region, next) := by
  obtain ⟨answer, v, rfl, success, body, spells⟩ := h
  obtain ⟨next, token, read⟩ := readPage_of_spells region spells
  refine ⟨next, token, ?_⟩
  rw [pageFrom_of_value r success body]
  exact read

/-- A body that holds no value is told with its text. -/
theorem pageOf_of_valueless {r : Response} {e : Json.ByteFault} (success : r.isSuccess = true)
    (body : Json.ofBytes r.body = .error e) (shallow : e ≠ .tooDeep) :
    pageOf r = r.text.bind fun text =>
      .error (.failure (.discovery "ListCollections returned a non-JSON body" none text)) := by
  simp only [pageOf, success, body]
  cases e with
  | tooDeep => exact absurd rfl shallow
  | undecodable => rfl
  | text fault => rfl

theorem pageFrom_of_fails {r : Request} {o : Outcome} {e : Problem} (h : Fails r.url.host o e) :
    (pageFrom r o >>= readPage region) = .error e := by
  cases h with
  | unreached transport =>
    simp only [pageFrom, transport]
    rfl
  | refused refusal text =>
    simp only [pageFrom, pageOf, refusal, text]
    rfl
  | valueless success body shallow text =>
    simp only [pageFrom, pageOf_of_valueless success body shallow, text]
    rfl
  | unrefused refusal text =>
    simp only [pageFrom, pageOf, refusal, text]
    rfl
  | unread success body shallow text =>
    simp only [pageFrom, pageOf_of_valueless success body shallow, text]
    rfl
  | tooDeep success body =>
    simp only [pageFrom, pageOf, success, body]
    rfl
  | fault other =>
    simp only [pageFrom, other]
    rfl
  | unusable => rfl

/-- An outcome is an accepted answer with a value, or a problem. -/
theorem value_or_fails (host : String) (o : Outcome) :
    (∃ r v, o = .received r ∧ r.isSuccess = true ∧ Json.ofBytes r.body = .ok v) ∨
      ∃ e, Fails host o e := by
  cases o with
  | fault f =>
    cases transport : f.kind.isTransport with
    | true => exact .inr ⟨_, .unreached transport⟩
    | false => exact .inr ⟨_, .fault transport⟩
  | unusable p => exact .inr ⟨p, .unusable⟩
  | received r =>
    cases success : r.isSuccess with
    | false =>
      cases text : r.text with
      | ok t => exact .inr ⟨_, .refused success text⟩
      | error p => exact .inr ⟨p, .unrefused success text⟩
    | true =>
      cases body : Json.ofBytes r.body with
      | ok v => exact .inl ⟨r, v, rfl, success, body⟩
      | error e =>
        by_cases deep : e = .tooDeep
        · exact .inr ⟨_, .tooDeep success (deep ▸ body)⟩
        · cases text : r.text with
          | ok t => exact .inr ⟨_, .valueless success body deep text⟩
          | error p => exact .inr ⟨p, .unread success body deep text⟩

/-- Whatever the value is, the token that is read is a member of an object. -/
theorem token_of_readPage {v next : Json} {more : List Collection}
    (h : readPage region v = .ok (more, next)) :
    ∃ ms : Members, v = .obj ms ∧ next = ms.getOrNull "nextToken" := by
  cases v with
  | obj ms =>
    refine ⟨ms, rfl, ?_⟩
    simp only [readPage, bind, Except.bind, pure, Except.pure] at h
    split at h
    · exact (Prod.mk.inj (Except.ok.inj h)).2.symm
    · split at h
      · split at h
        · cases h
        · exact (Prod.mk.inj (Except.ok.inj h)).2.symm
      all_goals cases h
  | _ => cases h

/-- An outcome from which a page is read is an accepted answer with an object that has its token. -/
theorem answer_of_pageFrom {r : Request} {o : Outcome} {more : List Collection} {next : Json}
    (h : (pageFrom r o >>= readPage region) = .ok (more, next)) :
    ∃ (answer : Response) (ms : Members), o = .received answer ∧ answer.isSuccess = true ∧
      Json.ofBytes answer.body = .ok (.obj ms) ∧ next = ms.getOrNull "nextToken" := by
  rcases value_or_fails r.url.host o with ⟨answer, v, rfl, success, body⟩ | ⟨e, fails⟩
  · rw [pageFrom_of_value r success body] at h
    obtain ⟨ms, rfl, token⟩ := token_of_readPage region h
    exact ⟨answer, ms, rfl, success, body, token⟩
  · rw [pageFrom_of_fails region fails] at h
    cases h

end IndexExplorer.Discovery
