import IndexExplorer.Proofs.Discovery.Run

/-!
When discovery returns all there is.

* `run_chain`: of a chain of pages, the records of as many as may be asked for are returned;
* `last_of_run_pages`: the last page that a run with a result got named no next one, unless the
  limit was reached;
* `discover_chain`: both, for discovery, and `long_chain_cut`: behind the limit records are missing.
-/
namespace IndexExplorer.Discovery

variable {env : Environment} {region : String} {k : CredentialSet} {timeout token : Json}
  {u : Url} {t : String} {s : Script} {n : Nat} {found : List Collection} {last : Page}

/-- Of a chain of pages up to `n` are read, and all their records returned. -/
theorem run_chain (wellFormed : isRegion region) (address : Url.read (controlPlane region) = .ok u)
    (env : Environment) (k : CredentialSet) (timeout : Json) (front : List Page)
    (linked : ∀ p ∈ front, p.next ≠ "") (ends : last.next = "") (n : Nat) (found : List Collection)
    (named : IsText token t)
    (brings : ∀ (i : Nat) (p : Page), (front ++ [last])[i]? = some p → Brings ((s.outcome i).seen u) p) :
    ∃ sent, (pages env region k timeout n found token).run s =
        (sent, .ok (found ++ ((front ++ [last]).take n).flatMap (Page.records region))) ∧
      sent.length = min n (front.length + 1) ∧ Follow u t (front ++ [last]) sent := by
  induction n generalizing front found token t s with
  | zero =>
    refine ⟨[], ?_, by simp, .nil t _⟩
    rw [pages_zero]
    simp [Exchange.run]
  | succ n ih =>
    obtain ⟨r, made, out, asks⟩ := asks_of_read wellFormed address env k timeout named
    cases front with
    | nil =>
      obtain ⟨next, after, run⟩ := run_pages_brings n found made out asks.url (brings 0 last rfl)
      rw [if_pos ends] at run
      refine ⟨[r], ?_, by simp, .single asks _⟩
      rw [run]
      simp
    | cons p front =>
      obtain ⟨more, linked⟩ := List.forall_mem_cons.mp linked
      obtain ⟨next, after, run⟩ := run_pages_brings n found made out asks.url (brings 0 p rfl)
      obtain ⟨sent, rest, length, follow⟩ := ih front linked (found ++ p.records region) after
        fun i q at_i => brings (i + 1) q at_i
      rw [if_neg more, rest] at run
      refine ⟨r :: sent, ?_, ?_, follow.cons asks⟩
      · rw [run]
        simp [List.append_assoc]
      · rw [List.length_cons, length, List.length_cons]
        omega

/-- The last page of a run with a result names no next one, unless as many were asked for as may
be. -/
theorem last_of_run_pages {sent : List Request} {all : List Collection}
    (wellFormed : isRegion region) (address : Url.read (controlPlane region) = .ok u)
    (h : (pages env region k timeout n found token).run s = (sent, .ok all)) (some : n ≠ 0) :
    ∃ m, sent.length = m + 1 ∧ ∃ (answer : Response) (ms : Members),
      (s.outcome m).seen u = .received answer ∧ answer.isSuccess = true ∧
      Json.ofBytes answer.body = .ok (.obj ms) ∧
      ((ms.getOrNull "nextToken").given = false ∨ sent.length = n) := by
  obtain ⟨known, rfl⟩ := hasAddress_of_read wellFormed address
  induction n generalizing found token s sent with
  | zero => exact absurd rfl some
  | succ n ih =>
    obtain ⟨r, made, out, url, -⟩ := request_eq known env k timeout token
    rw [pages_succ, made] at h
    dsimp only at h
    rw [Exchange.run_send, out, url] at h
    cases read : pageFrom r ((s.outcome 0).seen (home region)) >>= readPage region with
    | error e =>
      rw [read] at h
      cases h
    | ok page =>
      obtain ⟨more, next⟩ := page
      obtain ⟨answer, ms, came, success, body, rfl⟩ := answer_of_pageFrom region read
      rw [read] at h
      dsimp only at h
      by_cases given : (ms.getOrNull "nextToken").given
      · rw [if_pos given] at h
        obtain ⟨rfl, rest⟩ := Prod.mk.inj h
        by_cases none : n = 0
        · subst none
          exact ⟨0, rfl, answer, ms, came, success, body, .inr rfl⟩
        · obtain ⟨m, length, later, members, came, success, body, done⟩ :=
            ih (Prod.ext rfl rest) none
          exact ⟨m + 1, congrArg Nat.succ length, later, members, came, success, body,
            done.imp_right (congrArg Nat.succ)⟩
      · rw [if_neg given] at h
        obtain ⟨rfl, -⟩ := Prod.mk.inj h
        exact ⟨0, rfl, answer, ms, came, success, body, .inl (by simpa using given)⟩

/-! ## Discovery -/

/-- Discovery returns the records of a chain of pages, up to the limit. -/
theorem run_discover_chain (wellFormed : isRegion region)
    (address : Url.read (controlPlane region) = .ok u) (env : Environment) (k : CredentialSet)
    (timeout : Json) (front : List Page) (linked : ∀ p ∈ front, p.next ≠ "") (ends : last.next = "")
    (brings : ∀ (i : Nat) (p : Page), (front ++ [last])[i]? = some p →
      Brings ((s.outcome i).seen u) p) :
    ∃ sent, (discover env (.str region) k timeout).run s =
        (sent, .ok ⟨region, ((front ++ [last]).take pageLimit).flatMap (Page.records region)⟩) ∧
      sent.length = min pageLimit (front.length + 1) ∧ Follow u "" (front ++ [last]) sent := by
  obtain ⟨sent, run, length, follow⟩ := run_chain wellFormed address env k timeout front linked
    ends pageLimit [] (.inr ⟨rfl, rfl⟩) brings
  refine ⟨sent, ?_, length, follow⟩
  rw [discover_eq_pages wellFormed, Exchange.run_map, run, List.nil_append]
  rfl

/-- Discovery comes to a result only for a well-formed region whose control plane can be addressed. -/
theorem region_of_run_discover {region : Json} {sent : List Request} {all : CollectionList}
    (h : (discover env region k timeout).run s = (sent, .ok all)) :
    ∃ name u, region = .str name ∧ isRegion name ∧ Url.read (controlPlane name) = .ok u := by
  cases region with
  | str name =>
    by_cases wellFormed : isRegion name
    · cases read : Url.read (controlPlane name) with
      | ok u => exact ⟨name, u, rfl, wellFormed, read⟩
      | error fault =>
        rw [run_discover_unread wellFormed read] at h
        cases h
    · unfold discover at h
      dsimp only at h
      rw [if_neg wellFormed] at h
      split at h <;> cases h
  | _ =>
    unfold discover at h
    dsimp only at h
    split at h <;> cases h

/-- Whatever discovery is asked for, when it comes to a result the last page it got named no next
one, unless the limit was reached. -/
theorem last_of_run_discover {region : Json} {sent : List Request} {all : CollectionList}
    (h : (discover env region k timeout).run s = (sent, .ok all)) :
    ∃ name u m, region = .str name ∧ Url.read (controlPlane name) = .ok u ∧ sent.length = m + 1 ∧
      ∃ (answer : Response) (ms : Members), (s.outcome m).seen u = .received answer ∧
        answer.isSuccess = true ∧ Json.ofBytes answer.body = .ok (.obj ms) ∧
        ((ms.getOrNull "nextToken").given = false ∨ sent.length = pageLimit) := by
  obtain ⟨name, u, rfl, wellFormed, address⟩ := region_of_run_discover h
  rw [discover_eq_pages wellFormed, Exchange.run_map] at h
  obtain ⟨rfl, result⟩ := Prod.mk.inj h
  cases came : ((pages env name k timeout pageLimit [] .null).run s).2 with
  | error e =>
    rw [came] at result
    cases result
  | ok found =>
    obtain ⟨m, length, last⟩ :=
      last_of_run_pages wellFormed address (Prod.ext rfl came) (by decide)
    exact ⟨name, u, m, rfl, address, length, last⟩

/-- **Completeness of discovery.** When a chain of pages comes for a well-formed region, the records
of the first pages, as many as the limit allows, are returned in order, which are all if there are no
more. And whenever there is a result at all, for whatever region, the last page that was received
names no next one, or the limit is reached. -/
theorem discover_chain (env : Environment) (k : CredentialSet) (timeout : Json) (s : Script) :
    (∀ (region : String) (u : Url), isRegion region → Url.read (controlPlane region) = .ok u →
      ∀ (front : List Page) (last : Page), (∀ p ∈ front, p.next ≠ "") → last.next = "" →
      (∀ (i : Nat) (p : Page), (front ++ [last])[i]? = some p →
        Brings ((s.outcome i).seen u) p) →
      ∃ sent, (discover env (.str region) k timeout).run s =
          (sent, .ok ⟨region,
            ((front ++ [last]).take pageLimit).flatMap (Page.records region)⟩) ∧
        sent.length = min pageLimit (front.length + 1) ∧
        Follow u "" (front ++ [last]) sent) ∧
    ∀ (region : Json) (sent : List Request) (all : CollectionList),
      (discover env region k timeout).run s = (sent, .ok all) →
      ∃ name u m, region = .str name ∧ Url.read (controlPlane name) = .ok u ∧
        sent.length = m + 1 ∧ ∃ (answer : Response) (ms : Members),
        (s.outcome m).seen u = .received answer ∧ answer.isSuccess = true ∧
        Json.ofBytes answer.body = .ok (.obj ms) ∧
        ((ms.getOrNull "nextToken").given = false ∨ sent.length = pageLimit) := by
  constructor
  case left =>
    intro region u wellFormed address front last linked ends brings
    exact run_discover_chain wellFormed address env k timeout front linked ends brings
  case right =>
    intro region sent all h
    exact last_of_run_discover h

/-! ## Chains of any length -/

/-- A chain with `n` pages in front of its last, and the answers that bring it. -/
def chain (n : Nat) : List Page :=
  List.replicate n (onePage "c1" "logs" "t") ++ [onePage "c2" "metrics" ""]

def chainScript (n : Nat) : Script :=
  ⟨List.replicate n (answerOf (oneList "c1" "logs" "t")) ++ [answerOf (oneList "c2" "metrics" "")],
    false⟩

theorem brings_chain (n i : Nat) (p : Page) (at_i : (chain n)[i]? = some p) :
    Brings (((chainScript n).outcome i).seen (home someRegion)) p := by
  rw [chain, List.getElem?_append, List.length_replicate] at at_i
  split at at_i
  · rename_i inside
    have listed : (chainScript n).outcomes[i]? = some (answerOf (oneList "c1" "logs" "t")) := by
      rw [chainScript, List.getElem?_append_left (by simpa using inside), List.getElem?_replicate,
        if_pos inside]
    rw [List.getElem?_replicate, if_pos inside] at at_i
    obtain rfl := Option.some.inj at_i
    rw [Script.outcome_eq_of_getElem? listed]
    exact brings_oneList _ _ _
  · rename_i outside
    have listed : (chainScript n).outcomes[n]? = some (answerOf (oneList "c2" "metrics" "")) := by
      rw [chainScript, List.getElem?_append_right (by simp), List.length_replicate, Nat.sub_self]
      rfl
    obtain rfl : i = n := by
      have fits := (List.getElem?_eq_some_iff.mp at_i).1
      rw [List.length_singleton] at fits
      omega
    rw [Nat.sub_self] at at_i
    obtain rfl := Option.some.inj at_i
    rw [Script.outcome_eq_of_getElem? listed]
    exact brings_oneList _ _ _

/-- Two pages, and what both of them list. -/
theorem discover_chain_two :
    isRegion someRegion ∧ Url.read (controlPlane someRegion) = .ok (home someRegion) ∧
    ∃ sent, (discover Gateway.noonEnvironment (.str someRegion) someKey .null).run
        (chainScript 1) = (sent, .ok ⟨"us-east-1",
          [⟨"logs", "c1", "https://c1.us-east-1.aoss.amazonaws.com"⟩,
           ⟨"metrics", "c2", "https://c2.us-east-1.aoss.amazonaws.com"⟩]⟩) ∧
      sent.length = 2 ∧ Follow (home someRegion) "" (chain 1) sent ∧
      ∃ (answer : Response) (ms : Members),
        ((chainScript 1).outcome 1).seen (home someRegion) = .received answer ∧
        Json.ofBytes answer.body = .ok (.obj ms) ∧ (ms.getOrNull "nextToken").given = false := by
  have address := read_controlPlane hasAddress_someRegion
  obtain ⟨chained, ended⟩ := discover_chain Gateway.noonEnvironment someKey .null (chainScript 1)
  obtain ⟨sent, run, length, follow⟩ := chained someRegion _ hasAddress_someRegion.wellFormed
    address [onePage "c1" "logs" "t"] (onePage "c2" "metrics" "")
    (List.forall_mem_singleton.mpr (by decide)) rfl (brings_chain 1)
  obtain ⟨name, u, m, named, addressed, count, answer, ms, came, -, body, done⟩ := ended _ _ _ run
  obtain rfl := Json.str.inj named
  obtain rfl := Except.ok.inj (address.symm.trans addressed)
  have records : ((([onePage "c1" "logs" "t"] ++ [onePage "c2" "metrics" ""]).take
      pageLimit).flatMap (Page.records someRegion)) =
        [⟨"logs", "c1", "https://c1.us-east-1.aoss.amazonaws.com"⟩,
         ⟨"metrics", "c2", "https://c2.us-east-1.aoss.amazonaws.com"⟩] := by decide +kernel
  have two : sent.length = 2 := length
  obtain rfl : m = 1 := by omega
  rw [records] at run
  refine ⟨hasAddress_someRegion.wellFormed, address, sent, run, two, follow, answer, ms, came, body,
    done.resolve_right ?_⟩
  rw [two]
  decide

/-- With one page more than may be asked for, its records are missing, and nothing tells so. A page
with too many lists inside is not read, though it is the only one. And for a well-formed region with
too long a name no page is asked for. -/
theorem long_chain_cut :
    (isRegion someRegion ∧ Url.read (controlPlane someRegion) = .ok (home someRegion) ∧
      (∀ p ∈ (chain pageLimit).dropLast, p.next ≠ "") ∧
      (∀ p, (chain pageLimit).getLast? = some p → p.next = "") ∧
      (∀ (i : Nat) (p : Page), (chain pageLimit)[i]? = some p →
        Brings (((chainScript pageLimit).outcome i).seen (home someRegion)) p) ∧
      ∃ sent records, (discover Gateway.noonEnvironment (.str someRegion) someKey .null).run
          (chainScript pageLimit) = (sent, .ok ⟨someRegion, records⟩) ∧
        sent.length = pageLimit ∧
        records ≠ (chain pageLimit).flatMap (Page.records someRegion)) ∧
    ((Page.mk [] "").Spells deepPage ∧
      ∃ r, (discover Gateway.noonEnvironment (.str someRegion) someKey .null).run
        ⟨[answerOf deepPage], false⟩ = ([r], .error .tooDeep)) ∧
    ∃ region, isRegion region ∧ ∀ s,
      (discover Gateway.noonEnvironment (.str region) someKey .null).run s =
        ([], .error .badUrl) := by
  refine ⟨?cut, ?unread, ?unsent⟩
  case cut =>
    have address := read_controlPlane hasAddress_someRegion
    have linked : ∀ p ∈ List.replicate pageLimit (onePage "c1" "logs" "t"), p.next ≠ "" := by
      intro p mem
      rw [List.eq_of_mem_replicate mem]
      decide
    obtain ⟨sent, run, length, -⟩ := run_discover_chain hasAddress_someRegion.wellFormed address
      Gateway.noonEnvironment someKey .null _ linked rfl (brings_chain pageLimit)
    refine ⟨hasAddress_someRegion.wellFormed, address, ?_, ?_, brings_chain pageLimit, sent, _, run,
      ?_, ?_⟩
    · rw [chain, List.dropLast_concat]
      exact linked
    · intro p at_end
      rw [chain, List.getLast?_concat] at at_end
      obtain rfl := Option.some.inj at_end
      rfl
    · rw [length, List.length_replicate]
      rfl
    · decide +kernel
  case unread =>
    exact ⟨spells_deepPage, run_discover_fails hasAddress_someRegion _ someKey .null
      (fails_answerOf tooDeep_deepPage)⟩
  case unsent =>
    have wellFormed := isRegion_longName Url.lengthLimit
    obtain ⟨fault, unread⟩ := unread_longName
    exact ⟨_, wellFormed, run_discover_unread wellFormed unread _ someKey .null⟩

end IndexExplorer.Discovery
