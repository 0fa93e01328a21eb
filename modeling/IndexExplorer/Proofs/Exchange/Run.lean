import IndexExplorer.Exchange

/-!
Running programs that send requests: which request gets which outcome of a script.

* `outcome_eq_of_getElem?`: the outcome of a request is the one that the script lists for it;
* `outcome_mem`: there are no other outcomes;
* `run_bind`: the second of two programs goes on with what the first has left of the script;
* `run_send`: a request takes the next outcome, as its sender sees it;
* `seen_bare`: an answer without headers is seen as it is.
-/
namespace IndexExplorer

namespace Script

/-- What is left of a script after some requests. -/
def after (s : Script) : Nat → Script
  | 0 => s
  | n + 1 => s.next.2.after n

/-- The outcome of the request with this number. -/
def outcome (s : Script) (n : Nat) : Outcome := (s.after n).next.1

theorem outcome_succ (s : Script) (n : Nat) : s.outcome (n + 1) = s.next.2.outcome n := rfl

/-- A script tells every outcome of its list, so that any list of outcomes can be scripted. -/
theorem outcome_eq_of_getElem? {s : Script} {n : Nat} {o : Outcome} (h : s.outcomes[n]? = some o) :
    s.outcome n = o := by
  induction n generalizing s with
  | zero =>
    obtain ⟨outcomes, again⟩ := s
    match outcomes, h with
    | [a], h => simpa [outcome, after, next] using h
    | a :: b :: rest, h => simpa [outcome, after, next] using h
  | succ n ih =>
    rw [outcome_succ]
    apply ih
    obtain ⟨outcomes, again⟩ := s
    match outcomes, h with
    | [a], h => simp at h
    | a :: b :: rest, h => simpa [next] using h

/-- Every outcome of a script is one of its list, or that there is none left. -/
theorem outcome_mem (s : Script) (n : Nat) : s.outcome n ∈ s.outcomes ∨ s.outcome n = exhausted := by
  induction n generalizing s with
  | zero =>
    obtain ⟨outcomes, again⟩ := s
    match outcomes with
    | [] => exact .inr rfl
    | [o] => exact .inl List.mem_cons_self
    | o :: next :: rest => exact .inl List.mem_cons_self
  | succ n ih =>
    have left : ∀ o ∈ s.next.2.outcomes, o ∈ s.outcomes := by
      obtain ⟨outcomes, again⟩ := s
      match outcomes, again with
      | [], _ => exact nofun
      | [o], true => exact fun _ mem => mem
      | [o], false => exact nofun
      | o :: next :: rest, _ => exact fun _ mem => List.mem_cons_of_mem o mem
    exact (ih s.next.2).imp_left (left _)

end Script

namespace Exchange

/-- Two programs one after the other: the second goes on with what is left of the script. -/
theorem run_bind (x : Exchange α) (f : α → Exchange β) (s : Script) :
    (x.bind f).run s =
      ((x.run s).1 ++ ((f (x.run s).2).run (s.after (x.run s).1.length)).1,
        ((f (x.run s).2).run (s.after (x.run s).1.length)).2) := by
  induction x generalizing s with
  | done a => rfl
  | send r next ih => simp only [bind, run, ih, List.length_cons, List.cons_append]; rfl

/-- A request takes the next outcome of the script. -/
theorem run_send (r : Request) (next : Outcome → Exchange α) (s : Script) :
    (r.send.bind next).run s =
      (r.outgoing :: ((next ((s.outcome 0).seen r.url)).run s.next.2).1,
        ((next ((s.outcome 0).seen r.url)).run s.next.2).2) := rfl

end Exchange

/-- An answer without headers is seen as it is, where cookies could be kept. -/
theorem Outcome.seen_bare {url : Url} (fine : Redirect.cookieFault? url = none) (status : Int)
    (body : ByteArray) :
    (Outcome.received { status, body }).seen url = .received { status, body } := by
  have here : Redirect.location? { status, body } = none := by
    simp [Redirect.location?, Headers.getAll]
  have plain : Response.decoded { status, body } = .received { status, body } := rfl
  simp only [Outcome.seen, plain, Redirect.settle, fine, Redirect.check, here]

end IndexExplorer
