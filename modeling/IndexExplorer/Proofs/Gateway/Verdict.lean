import IndexExplorer.Gateway

/-!
What the outcome of asking a node means for a call.

* `Settles`: the rules by which an outcome settles a call, one for each kind of outcome;
* `settles_verdict`: a call comes to what the rules say;
* `Settles.reported`: a failure that an answer comes to reports the status and text of the answer.
-/
namespace IndexExplorer

/-- The trouble that kept a node from answering at all, if that is what happened. -/
def Outcome.silence? : Outcome → Option SendFault
  | .fault f => if f.kind.isTransport then some f else none
  | _ => none

theorem Outcome.silence?_eq_some_iff {o : Outcome} {f : SendFault} :
    o.silence? = some f ↔ o = .fault f ∧ f.kind.isTransport = true := by
  cases o with
  | received r => simp [silence?]
  | unusable p => simp [silence?]
  | fault g =>
    cases t : g.kind.isTransport
    · simp only [silence?, t, Bool.false_eq_true, ↓reduceIte, reduceCtorEq, false_iff]
      rintro ⟨e, h⟩
      cases e
      simp [t] at h
    · simp only [silence?, t, ↓reduceIte, Option.some.injEq, Outcome.fault.injEq]
      constructor
      · rintro rfl
        exact ⟨rfl, t⟩
      · exact fun h => h.1

namespace Gateway

/-- What a call comes to when the outcome of asking a node settles it. -/
def verdict (node : String) : Outcome → Result Reply
  | .received r => judge node r
  | .fault f => .error (.sending f)
  | .unusable p => .error p

/-- The rules by which the outcome of asking a node settles a call. -/
inductive Settles (node : String) : Outcome → Result Reply → Prop
  /-- An accepted request is answered by the value in the body, -/
  | value {r : Response} {v : Json} : r.isSuccess = true → Json.ofBytes r.body = .ok v →
      Settles node (.received r) (.ok ⟨r.status, v, node⟩)
  /-- or by the text of the body when it holds no value. -/
  | raw {r : Response} {e : Json.ByteFault} {t : String} : r.isSuccess = true →
      Json.ofBytes r.body = .error e → e ≠ .tooDeep → r.text = .ok t →
      Settles node (.received r) (.ok ⟨r.status, .obj [("raw", .str t)], node⟩)
  | tooDeep {r : Response} : r.isSuccess = true → Json.ofBytes r.body = .error .tooDeep →
      Settles node (.received r) (.error .tooDeep)
  | unread {r : Response} {e : Json.ByteFault} {p : Problem} : r.isSuccess = true →
      Json.ofBytes r.body = .error e → e ≠ .tooDeep → r.text = .error p →
      Settles node (.received r) (.error p)
  /-- A node may turn down the sender, -/
  | denied {r : Response} {t : String} : r.status = 401 ∨ r.status = 403 → r.text = .ok t →
      Settles node (.received r) (.error (.failure (.authentication r.status t (some node))))
  /-- or the request. -/
  | refused {r : Response} {t : String} : r.status ≠ 401 → r.status ≠ 403 →
      r.isSuccess = false → r.text = .ok t →
      Settles node (.received r) (.error (.failure (.refused r.status t (some node))))
  | unreadable {r : Response} {p : Problem} : r.isSuccess = false → r.text = .error p →
      Settles node (.received r) (.error p)
  | fault {f : SendFault} : Settles node (.fault f) (.error (.sending f))
  | unusable {p : Problem} : Settles node (.unusable p) (.error p)

theorem isSuccess_eq_true_iff {r : Response} :
    r.isSuccess = true ↔ 200 ≤ r.status ∧ r.status < 300 := by
  simp [Response.isSuccess]

theorem judge_of_denied {node : String} {r : Response} (h : r.status = 401 ∨ r.status = 403) :
    judge node r = r.text.bind fun t =>
      .error (.failure (.authentication r.status t (some node))) := by
  simp only [judge, h, Bool.or_eq_true, decide_eq_true_eq, ↓reduceIte]
  rfl

theorem judge_of_refused {node : String} {r : Response} (h₁ : r.status ≠ 401)
    (h₂ : r.status ≠ 403) (h : r.isSuccess = false) :
    judge node r = r.text.bind fun t => .error (.failure (.refused r.status t (some node))) := by
  simp only [judge, h₁, h₂, h, decide_false, Bool.or_self, Bool.false_eq_true, ↓reduceIte,
    Bool.not_false]
  rfl

theorem judge_of_isSuccess {node : String} {r : Response} (h : r.isSuccess = true) :
    judge node r = r.data.map fun v => ⟨r.status, v, node⟩ := by
  have range := isSuccess_eq_true_iff.mp h
  have h₁ : r.status ≠ 401 := by omega
  have h₂ : r.status ≠ 403 := by omega
  simp only [judge, h₁, h₂, h, decide_false, Bool.or_self, Bool.false_eq_true, ↓reduceIte,
    Bool.not_true]

theorem settles_judge (node : String) (r : Response) :
    Settles node (.received r) (judge node r) := by
  by_cases denied : r.status = 401 ∨ r.status = 403
  · have h : r.isSuccess = false := by
      rw [Bool.eq_false_iff, ne_eq, isSuccess_eq_true_iff]
      omega
    rw [judge_of_denied denied]
    cases text : r.text with
    | ok t => exact .denied denied text
    | error p => exact .unreadable h text
  · cases h : r.isSuccess with
    | true =>
      rw [judge_of_isSuccess h, Response.data]
      cases body : Json.ofBytes r.body with
      | ok v => exact .value h body
      | error e =>
        cases e with
        | tooDeep => exact .tooDeep h body
        | undecodable =>
          cases text : r.text with
          | ok t => exact .raw h body nofun text
          | error p => exact .unread h body nofun text
        | text fault =>
          cases text : r.text with
          | ok t => exact .raw h body nofun text
          | error p => exact .unread h body nofun text
    | false =>
      rw [not_or] at denied
      rw [judge_of_refused denied.1 denied.2 h]
      cases text : r.text with
      | ok t => exact .refused denied.1 denied.2 h text
      | error p => exact .unreadable h text

theorem charsetName_ne_failure (r : Response) (f : Failure) :
    r.charsetName ≠ .error (.failure f) := by
  intro h
  unfold Response.charsetName at h
  simp only [bind, Except.bind, pure, Except.pure, throw, throwThe, MonadExceptOf.throw] at h
  split at h
  · cases h
  · split at h
    · cases h
    · cases h
    · cases h
    · split at h <;> cases h

theorem charset_ne_failure (r : Response) (f : Failure) : r.charset ≠ .error (.failure f) := by
  intro h
  unfold Response.charset at h
  cases name : r.charsetName with
  | error p =>
    have e : p = .failure f := by simpa [name, bind, Except.bind] using h
    exact charsetName_ne_failure r f (e ▸ name)
  | ok n =>
    simp only [name, bind, Except.bind, pure, Except.pure, throw, throwThe,
      MonadExceptOf.throw] at h
    split at h <;> cases h

/-- A body that cannot be read as text is no failure of the engine. -/
theorem text_ne_failure (r : Response) (f : Failure) : r.text ≠ .error (.failure f) := by
  intro h
  unfold Response.text at h
  cases set : r.charset with
  | error p =>
    simp only [set, bind, Except.bind, pure, Except.pure] at h
    split at h
    · cases h
    · have e : p = .failure f := by simpa using h
      exact charset_ne_failure r f (e ▸ set)
  | ok charset =>
    simp only [set, bind, Except.bind, pure, Except.pure, throw, throwThe,
      MonadExceptOf.throw] at h
    split at h
    · cases h
    · split at h <;> cases h

/-- A failure that an answer comes to is of the kind that the status of the answer stands for, and
reports the answer: its status, its text as far as it is shown, and its node. -/
theorem Settles.reported {node : String} {r : Response} {f : Failure}
    (h : Settles node (.received r) (.error (.failure f))) :
    (f.kind = if r.status = 401 ∨ r.status = 403 then .authentication else .refused) ∧
      f.status = some (some r.status) ∧ f.node = some (some node) ∧
      ∃ t, r.text = .ok t ∧ f.body = some (Failure.cut t) := by
  cases h with
  | denied denied text => exact ⟨by simp [denied, Failure.kind], rfl, rfl, _, text, rfl⟩
  | refused h₁ h₂ _ text => exact ⟨by simp [h₁, h₂, Failure.kind], rfl, rfl, _, text, rfl⟩
  | unread _ _ _ text => exact absurd text (text_ne_failure r f)
  | unreadable _ text => exact absurd text (text_ne_failure r f)

end Gateway

end IndexExplorer
