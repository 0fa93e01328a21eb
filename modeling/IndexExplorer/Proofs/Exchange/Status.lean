import IndexExplorer.Explorer
import IndexExplorer.Proofs.Exchange.Told
import IndexExplorer.Proofs.Store.Told

/-!
Where the status of a failure comes from.

Some failures have a status of their own. The others report a response, which is always the one to
the last request, and have its status.

* `StatusFrom`: the two places that a status comes from;
* `status_of_seen`: a response is seen with the status that it has;
* `Grounded`: whatever failure an operation comes to, in any run, has its status from there;
* `Grounded.done`, `Grounded.send`, `Grounded.map`, `Grounded.andThen`: the operations for which
  this holds.
-/
namespace IndexExplorer

/-- The statuses that failures have of their own. -/
def ownStatuses : List Int := [400, 401, 502]

/-- The failure has a status of its own, or that of a response that turned down the last request. -/
def StatusFrom (s : Script) (sent : List Request) (f : Failure) : Prop :=
  f.httpStatus ∈ ownStatuses ∨ ∃ n r, sent.length = n + 1 ∧ s.outcome n = .received r ∧
    r.isSuccess = false ∧ f.httpStatus = r.status

theorem StatusFrom.cons {s : Script} {sent : List Request} {f : Failure} {r : Request}
    (h : StatusFrom s.next.2 sent f) : StatusFrom s (r :: sent) f := by
  refine h.imp_right ?_
  rintro ⟨n, response, length, outcome, rest⟩
  exact ⟨n + 1, response, by rw [List.length_cons, length], outcome, rest⟩

/-! ## Responses -/

/-- A response is seen with the status that it has. -/
theorem Outcome.status_of_seen {o : Outcome} {url : Url} {r : Response}
    (h : o.seen url = .received r) : ∃ raw, o = .received raw ∧ raw.status = r.status := by
  cases o with
  | fault f => cases h
  | unusable p => cases h
  | received raw =>
    refine ⟨raw, rfl, ?_⟩
    have settled : ∀ raw, Redirect.settle url raw = .received r → raw.status = r.status := by
      intro raw h
      unfold Redirect.settle at h
      split at h
      · cases h
      · unfold Redirect.check at h
        split at h
        · cases h
          rfl
        · split at h
          · cases h
          · split at h
            · cases h
              rfl
            · cases h
    unfold seen at h
    dsimp only at h
    unfold Response.decoded at h
    split at h
    · rename_i decoded
      split at decoded
      · cases decoded
        have same := settled _ h
        exact same
      · cases decoded
    · rename_i other
      rw [h] at other
      exact absurd rfl (other r)

/-- A response turns down a request when it is seen to. -/
theorem Response.isSuccess_congr {r r' : Response} (same : r.status = r'.status) :
    r.isSuccess = r'.isSuccess := by
  rw [isSuccess, isSuccess, same]

/-! ## Operations -/

/-- No outcome is a failure of some kind already. -/
def Script.Clean (s : Script) : Prop := ∀ i f, s.outcome i ≠ .unusable (.failure f)

/-- Whatever failure an operation comes to has its status from one of the two places. -/
def Grounded (x : Operation α) : Prop :=
  ∀ s : Script, s.Clean → ∀ f, (x.run s).2 = .error (.failure f) → StatusFrom s (x.run s).1 f

/-- The failure in a result has a status of its own. -/
def OwnStatus (r : Result α) : Prop := ∀ f, r = .error (.failure f) → f.httpStatus ∈ ownStatuses

theorem OwnStatus.of_stray {r : Result α} (stray : OnlyStray r) : OwnStatus r :=
  fun f h => absurd rfl (stray _ h f)

theorem OwnStatus.error {f : Failure} (own : f.httpStatus ∈ ownStatuses) :
    OwnStatus (.error (.failure f) : Result α) := by
  rintro _ ⟨⟩
  exact own

/-- The failure in a result has a status of its own, or that of a response that turned down the
request. -/
def StatusOf (o : Outcome) (r : Result α) : Prop := ∀ f, r = .error (.failure f) →
  f.httpStatus ∈ ownStatuses ∨
    ∃ response, o = .received response ∧ response.isSuccess = false ∧ f.httpStatus = response.status

namespace Grounded

theorem done {r : Result α} (own : OwnStatus r) : Grounded (.done r) :=
  fun _ _ f h => .inl (own f h)

/-- A request, and what is done about its outcome: it is the end, or goes on with such an
operation. -/
theorem send {r : Request} {next : Outcome → Operation α}
    (h : ∀ o, (∀ p, o = .unusable p → p.Stray) →
      (∃ result, next o = .done result ∧ StatusOf o result) ∨ Grounded (next o)) :
    Grounded (r.send.bind next) := by
  intro s clean f failed
  rw [Exchange.run_send] at failed ⊢
  have stray : ∀ p, (s.outcome 0).seen r.url = .unusable p → p.Stray :=
    fun p seen => Outcome.stray_of_seen (clean 0) seen
  rcases h _ stray with ⟨result, ended, status⟩ | grounded
  · rw [ended] at failed ⊢
    -- The response is judged as it is seen, decoded and settled, which keeps its status.
    refine (status f failed).imp_right ?_
    rintro ⟨response, seen, refused, same⟩
    obtain ⟨raw, received, status⟩ := Outcome.status_of_seen seen
    refine ⟨0, raw, rfl, received, ?_, same.trans status.symm⟩
    rwa [Response.isSuccess_congr status]
  · exact (grounded _ (fun i => clean (i + 1)) f failed).cons

/-- What is made of the result brings no failure. -/
theorem map {x : Operation α} (h : Grounded x) {g : Result α → Result β}
    (keeps : ∀ r f, g r = .error (.failure f) → r = .error (.failure f)) : Grounded (x.map g) := by
  intro s clean f failed
  rw [Exchange.run_map] at failed ⊢
  exact h s clean f (keeps _ f failed)

theorem andThen {x : Operation α} (h : Grounded x) {g : α → Result β}
    (stray : ∀ a, OnlyStray (g a)) : Grounded (Operation.andThen x g) := by
  refine h.map fun r f failed => ?_
  cases r with
  | ok a => exact absurd rfl (stray a _ failed f)
  | error p => exact congrArg Except.error (Except.error.inj failed)

end Grounded

end IndexExplorer
