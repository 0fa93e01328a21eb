import IndexExplorer.Proofs.Exchange.Run
import Mathlib.Data.List.Forall2

/-!
Programs that do the same on inputs that are told apart by little.

* `Checked.Agree`, `Result.Agree`: two values of which the same is related, or the same faults and
  the same problem on both sides;
* `Exchange.Alike`: two programs that send related requests, go on alike after every outcome, and
  end with the same result;
* `Alike.run`: so do their runs, whatever comes of the requests.
-/
namespace IndexExplorer

/-! ## Checked values -/

/-- Two checked values that are related, or the same faults. -/
inductive Checked.Agree (R : α → β → Prop) : Checked α → Checked β → Prop
  | passed {a b} (related : R a b) : Agree R (.passed a) (.passed b)
  | failed (faults) : Agree R (.failed faults) (.failed faults)

/-- Two results that are related, or the same problem. -/
inductive Result.Agree (R : α → β → Prop) : Result α → Result β → Prop
  | ok {a b} (related : R a b) : Agree R (.ok a) (.ok b)
  | error (p) : Agree R (.error p) (.error p)

namespace Checked.Agree

variable {R : α → β → Prop}

/-- A function of the same value on both sides. -/
theorem map {S : γ → δ → Prop} {f : α → γ} {g : α → δ} (keep : ∀ a, S (f a) (g a))
    (x : Checked α) : Agree S (f <$> x) (g <$> x) := by
  cases x with
  | passed a => exact .passed (keep a)
  | failed faults => exact .failed faults

/-- The same argument on both sides. -/
theorem seq {S : γ → δ → Prop} {f : Checked (α → γ)} {g : Checked (α → δ)}
    (functions : Agree (fun f g => ∀ a, S (f a) (g a)) f g) (x : Checked α) :
    Agree S (f <*> x) (g <*> x) := by
  cases functions with
  | passed keep =>
    cases x with
    | passed a => exact .passed (keep a)
    | failed faults => exact .failed faults
  | failed faults =>
    cases x with
    | passed a => exact .failed faults
    | failed others => exact .failed (faults ++ others)

/-- An argument of its own on each side, of which neither has a fault. -/
theorem seqPassed {S : γ → δ → Prop} {f : Checked (α → γ)} {g : Checked (β → δ)} {a : α} {b : β}
    (functions : Agree (fun f g => S (f a) (g b)) f g) :
    Agree S (f <*> .passed a) (g <*> .passed b) := by
  cases functions with
  | passed keep => exact .passed keep
  | failed faults => exact .failed faults

theorem result {x : Checked α} {y : Checked β} (h : Agree R x y) :
    Result.Agree R x.result y.result := by
  cases h with
  | passed related => exact .ok related
  | failed faults => exact .error _

end Checked.Agree

namespace Result.Agree

variable {R : α → β → Prop}

theorem bind {S : γ → δ → Prop} {x : Result α} {y : Result β} {f : α → Result γ}
    {g : β → Result δ} (h : Agree R x y) (next : ∀ a b, R a b → Agree S (f a) (g b)) :
    Agree S (x >>= f) (y >>= g) := by
  cases h with
  | ok related => exact next _ _ related
  | error p => exact .error p

theorem map {S : γ → δ → Prop} {x : Result α} {y : Result β} {f : α → γ} {g : β → δ}
    (h : Agree R x y) (keep : ∀ a b, R a b → S (f a) (g b)) :
    Agree S (x.map f) (y.map g) := by
  cases h with
  | ok related => exact .ok (keep _ _ related)
  | error p => exact .error p

/-- The same first step on both sides. -/
theorem bindSame {S : γ → δ → Prop} (x : Result α) {f : α → Result γ} {g : α → Result δ}
    (next : ∀ a, Agree S (f a) (g a)) : Agree S (x >>= f) (x >>= g) := by
  cases x with
  | ok a => exact next a
  | error p => exact .error p

end Result.Agree

/-! ## Programs -/

namespace Exchange

/-- Two programs that send related requests and end alike, whatever the outcomes. -/
inductive Alike (R : Request → Request → Prop) : Exchange α → Exchange α → Prop
  | done (a) : Alike R (.done a) (.done a)
  | send {r r' next next'} (related : R r r') (rest : ∀ o, Alike R (next o) (next' o)) :
    Alike R (.send r next) (.send r' next')

/-- Two runs that sent related requests, one by one, and ended with the same result. -/
def AlikeRuns (R : Request → Request → Prop) (x y : List Request × α) : Prop :=
  List.Forall₂ R x.1 y.1 ∧ x.2 = y.2

namespace Alike

variable {R : Request → Request → Prop} {x y : Exchange α}

/-- Runs of programs that are alike are alike, for every script. -/
theorem run (h : Alike R x y) (s : Script) : AlikeRuns R (x.run s) (y.run s) := by
  induction h generalizing s with
  | done a => exact ⟨.nil, rfl⟩
  | send related rest ih =>
    obtain ⟨sent, result⟩ := ih s.next.1 s.next.2
    exact ⟨.cons related sent, result⟩

theorem bind {f g : α → Exchange β} (h : Alike R x y) (next : ∀ a, Alike R (f a) (g a)) :
    Alike R (x.bind f) (y.bind g) := by
  induction h with
  | done a => exact next a
  | send related rest ih => exact .send related ih

theorem map (f : α → β) (h : Alike R x y) : Alike R (x.map f) (y.map f) :=
  h.bind fun a => .done (f a)

/-- A request for the same URL on both sides, of which the sender sees the same. -/
theorem sendBind {r r' : Request} {next next' : Outcome → Exchange α} (url : r.url = r'.url)
    (related : R r.outgoing r'.outgoing) (rest : ∀ o, Alike R (next o) (next' o)) :
    Alike R (r.send.bind next) (r'.send.bind next') := by
  refine .send related fun o => ?_
  rw [url]
  exact rest _

end Alike

end Exchange

end IndexExplorer
