import IndexExplorer.Proofs.Session.Events

/-!
Searches that are over.

A search that is scheduled calls off the one scheduled before. A search that was called off may
sleep, wait for the engine or have its answer already, and it learns of it only when its turn comes;
but then it does nothing but end.

* `over_move`, `session_of_over`: a search that has ended or was called off stays so, and its turn
  does no more than end it;
* `ordered_move`: all scheduled searches but the last are over.
-/
namespace IndexExplorer.Session

namespace Loop

/-- The search is there, has not ended and was not told to stop. -/
def Active (l : Loop) (i : Nat) : Prop := l.session.isCancellable i ∧ l.turns i ≠ some .stop

/-- The search has ended, or it is to stop when its turn comes. -/
def Over (l : Loop) (i : Nat) : Prop :=
  (∃ e, l.session.work[i]? = some (.ended e)) ∨
    i < l.session.work.length ∧ l.turns i = some .stop

/-- All scheduled searches but the last one are over. -/
structure Ordered (l : Loop) : Prop where
  inside : ∀ i ∈ l.scheduled, i < l.session.work.length
  newest : l.session.scheduled = l.scheduled.head?
  past : ∀ i ∈ l.scheduled.tail, l.Over i

variable {env : Environment} {l : Loop} {i : Nat}

/-! ## Searches that are over -/

theorem Over.inside (past : l.Over i) : i < l.session.work.length := by
  rcases past with ⟨e, there⟩ | ⟨inside, -⟩
  · exact (List.getElem?_eq_some_iff.mp there).1
  · exact inside

theorem not_active_of_over (past : l.Over i) : ¬ l.Active i := by
  rintro ⟨can, turn⟩
  rcases past with ⟨e, there⟩ | ⟨-, stop⟩
  · simp [isCancellable, there, Work.isEnded] at can
  · exact turn stop

theorem length_le_move (env : Environment) (l : Loop) (m : Move) :
    l.session.work.length ≤ (l.move env m).session.work.length := by
  cases work : l.session.work.length with
  | zero => exact Nat.zero_le _
  | succ n =>
    have last : n < l.session.work.length := by omega
    rcases move_at env l m last with ⟨-, t, -, session, -⟩ | ⟨same, -⟩
    · rw [session, (frame_take n t).2.2.1]
      omega
    · rw [List.getElem?_eq_getElem last] at same
      exact (List.getElem?_eq_some_iff.mp same).1

/-- A search that is over stays so, whatever happens. -/
theorem over_move (past : l.Over i) (m : Move) : (l.move env m).Over i := by
  have inside := past.inside
  have still : i < (l.move env m).session.work.length :=
    Nat.lt_of_lt_of_le inside (length_le_move env l m)
  rcases move_at env l m inside with ⟨-, t, turn, session, -⟩ | ⟨same, turns⟩
  · rcases past with ⟨e, there⟩ | ⟨-, stop⟩
    · rw [take_of_ended there] at session
      exact .inl ⟨e, by rw [session, there]⟩
    · obtain rfl : Turn.stop = t := Option.some.inj (stop.symm.trans turn)
      left
      cases can : l.session.isCancellable i with
      | true =>
        refine ⟨.cancelled, ?_⟩
        rw [session, take, cancel_of_isCancellable can]
        exact List.getElem?_set_self inside
      | false =>
        rw [session, take, cancel_of_not_isCancellable can]
        exact ended_of_not_isCancellable inside can
  · rcases past with ⟨e, there⟩ | ⟨-, stop⟩
    · exact .inl ⟨e, by rw [same, there]⟩
    · refine .inr ⟨still, ?_⟩
      rcases turns with kept | ⟨-, idle, -⟩ | ⟨r, o, -, idle, -⟩ | ⟨-, -, told⟩
      · rw [kept, stop]
      · rw [stop] at idle
        cases idle
      · rw [stop] at idle
        cases idle
      · exact told

theorem over_run (past : l.Over i) (ms : List Move) : (l.run env ms).Over i := by
  induction ms generalizing l with
  | nil => exact past
  | cons m ms ih => exact ih (over_move past m)

/-- At its turn a search that is over does no more than end. -/
theorem session_of_over (past : l.Over i) :
    (l.move env (.turn i)).session = l.session.cancel i := by
  cases turn : l.turns i with
  | none =>
    rcases past with ⟨e, there⟩ | ⟨-, stop⟩
    · simp [move, turn, cancel, there, Work.isEnded]
    · rw [turn] at stop
      cases stop
  | some t =>
    have session : (l.move env (.turn i)).session = take env l.session i t := by simp [move, turn]
    rw [session]
    rcases past with ⟨e, there⟩ | ⟨-, stop⟩
    · rw [take_of_ended there]
      simp [cancel, there, Work.isEnded]
    · obtain rfl : Turn.stop = t := Option.some.inj (stop.symm.trans turn)
      rfl

theorem not_begun_of_over (past : l.Over i) (m : Move) (f : FilterState) :
    l.begun m ≠ some (i, f) := by
  intro asks
  obtain ⟨-, t, due, turn, there, when_asked⟩ := begun_eq_some_iff.mp asks
  rcases past with ⟨e, ended⟩ | ⟨-, stop⟩
  · rw [ended] at there
    cases there
  · obtain rfl : Turn.stop = t := Option.some.inj (stop.symm.trans turn)
    rcases when_asked with e | ⟨e, -⟩ <;> cases e

/-! ## The order of scheduled searches -/

theorem session_scheduled_move (env : Environment) (l : Loop) (m : Move) :
    (l.move env m).session.scheduled =
      match m with
      | .schedule _ => some l.session.work.length
      | _ => l.session.scheduled := by
  cases m with
  | schedule f => rfl
  | search f => rfl
  | connect c => rfl
  | pass seconds => rfl
  | expire task =>
    simp only [move]
    split <;> rfl
  | answer request o =>
    simp only [move]
    split
    · split <;> rfl
    · rfl
  | cancel task => exact congrArg Session.scheduled (session_callOff task)
  | turn task =>
    simp only [move]
    split
    · exact (frame_take task _).1
    · rfl

theorem length_schedule (env : Environment) (l : Loop) (f : FilterState) :
    (l.move env (.schedule f)).session.work.length = l.session.work.length + 1 := by
  simp [work_schedule]

/-- A search that is told to stop is over, if only because it has ended already. -/
theorem over_callOff (inside : i < l.session.work.length) : (l.callOff i).Over i := by
  cases can : l.session.isCancellable i with
  | true => exact .inr ⟨by rwa [session_callOff], by simp [callOff, can, turns_setTurn]⟩
  | false => exact .inl (by simpa [callOff, can] using ended_of_not_isCancellable inside can)

/-- When another search is scheduled, all that were scheduled before are over. -/
theorem over_schedule (ordered : l.Ordered) (f : FilterState) (mem : i ∈ l.scheduled) :
    (l.move env (.schedule f)).Over i := by
  have inside := ordered.inside i mem
  have newest := ordered.newest
  cases all : l.scheduled with
  | nil => simp [all] at mem
  | cons last earlier =>
    rw [all] at mem newest
    rcases List.mem_cons.mp mem with rfl | before
    · have disarmed : l.disarmed = l.callOff i := by simp [disarmed, newest]
      have still : i < (l.move env (.schedule f)).session.work.length := by
        rw [length_schedule]
        omega
      rcases over_callOff inside with ⟨e, there⟩ | ⟨-, stop⟩
      · rw [session_callOff] at there
        exact .inl ⟨e, by rw [work_schedule, List.getElem?_append_left inside, there]⟩
      · exact .inr ⟨still, by rw [turns_schedule f inside, disarmed, stop]⟩
    · exact over_move (ordered.past i (by rw [all]; exact before)) _

theorem ordered_move (ordered : l.Ordered) (m : Move) : (l.move env m).Ordered := by
  by_cases new : ∃ f, m = .schedule f
  · obtain ⟨f, rfl⟩ := new
    have scheduled : (l.move env (.schedule f)).scheduled = l.session.work.length :: l.scheduled :=
      scheduled_move env l (.schedule f)
    refine ⟨?_, ?_, ?_⟩
    · intro i mem
      rw [scheduled] at mem
      rw [length_schedule]
      rcases List.mem_cons.mp mem with rfl | before
      · exact Nat.lt_succ_self _
      · exact Nat.lt_succ_of_lt (ordered.inside i before)
    · rw [scheduled]
      exact session_scheduled_move env l (.schedule f)
    · intro i mem
      rw [scheduled] at mem
      exact over_schedule ordered f mem
  · have scheduled : (l.move env m).scheduled = l.scheduled := by
      rw [scheduled_move]
      split
      · exact absurd ⟨_, rfl⟩ new
      · rfl
    refine ⟨?_, ?_, ?_⟩
    · intro i mem
      rw [scheduled] at mem
      exact Nat.lt_of_lt_of_le (ordered.inside i mem) (length_le_move env l m)
    · rw [scheduled, ← ordered.newest, session_scheduled_move]
      split
      · exact absurd ⟨_, rfl⟩ new
      · rfl
    · intro i mem
      rw [scheduled] at mem
      exact over_move (ordered.past i mem) m

theorem ordered_run (ordered : l.Ordered) (ms : List Move) : (l.run env ms).Ordered := by
  induction ms generalizing l with
  | nil => exact ordered
  | cons m ms ih => exact ih (ordered_move ordered m)

/-- Only the newest of the scheduled searches can be active. -/
theorem newest_of_active (ordered : l.Ordered) (mem : i ∈ l.scheduled) (active : l.Active i) :
    l.scheduled.head? = some i := by
  have past := ordered.past
  cases all : l.scheduled with
  | nil => simp [all] at mem
  | cons last earlier =>
    rw [all] at mem past
    rcases List.mem_cons.mp mem with rfl | before
    · rfl
    · exact absurd active (not_active_of_over (past i before))

end Loop

end IndexExplorer.Session
