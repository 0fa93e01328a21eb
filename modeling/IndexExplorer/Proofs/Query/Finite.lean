import IndexExplorer.Proofs.Explorer.Body
import IndexExplorer.Proofs.Json.Double
import IndexExplorer.Proofs.Query.Distance

/-!
The numbers of a query.

A condition is compiled to a double only when the double is finite. The coordinates of a circle are
taken as they are, and what is given for them may be infinite or a NaN.

* `Clause.isFinite_toJson`, `Query.isFinite_toJson`: the doubles that decide;
* `Literal.isFinite_of_ofText`: those of conditions are finite;
* `readsBack_of_compile`: the doubles of a query around a finite point survive being written;
* `compile_finite`: when the document of a query is one of the JSON standard.
-/
namespace IndexExplorer

open Number

/-! ## Values -/

namespace Json

theorem areFinite_iff {vs : List Json} : areFinite vs ↔ ∀ v ∈ vs, v.isFinite := by
  induction vs with
  | nil => exact ⟨nofun, fun _ => rfl⟩
  | cons v vs ih => rw [areFinite, Bool.and_eq_true, ih, List.forall_mem_cons]

theorem isFinite_single {name : String} {v : Json} :
    (Clause.single name v).isFinite = v.isFinite := by
  simp [Clause.single, isFinite, haveFinite]

end Json

/-- A number of a condition is finite. -/
theorem Literal.isFinite_of_ofText {s : String} {x : Float} (h : ofText s = .ok (.real x)) :
    isFinite x := by
  unfold ofText at h
  dsimp only at h
  split at h
  · split at h
    · split at h
      · rename_i finite
        obtain rfl : _ = x := Literal.real.inj (Except.ok.inj h)
        exact finite
      · cases h
    · split at h <;> cases h
  · cases h

namespace Clause

theorem isFinite_literal (v : Literal) :
    v.toJson.isFinite ↔ ∀ x, v = .real x → Number.isFinite x := by
  cases v with
  | text s => exact ⟨nofun, fun _ => rfl⟩
  | whole n => exact ⟨nofun, fun _ => rfl⟩
  | real x =>
    constructor
    · rintro finite y ⟨⟩
      exact finite
    · exact fun finite => finite x rfl

theorem mem_doubles_phrase {field : String} {v : Literal} {x : Float} :
    x ∈ (phrase field v).doubles ↔ v = .real x := by
  cases v <;> simp [doubles, eq_comm]

theorem mem_doubles_range {field : String} {o : Operator} {v : Literal} {x : Float} :
    x ∈ (range field o v).doubles ↔ v = .real x := by
  cases v <;> simp [doubles, eq_comm]

/-- The point of a circle is in its clause whatever its field is called. -/
theorem isFinite_circle (distance field : String) (latitude longitude : Float) :
    (geoDistance distance field latitude longitude).toJson.isFinite ↔
      Number.isFinite latitude ∧ Number.isFinite longitude := by
  rw [toJson, Json.isFinite_single, circle_members]
  split <;> simp [Json.isFinite, Json.haveFinite]

theorem isFinite_toJson (c : Clause) :
    c.toJson.isFinite ↔ ∀ x ∈ c.doubles, Number.isFinite x := by
  cases c with
  | matchAll => exact ⟨fun _ => List.forall_mem_nil _, fun _ => rfl⟩
  | multiMatch query fields =>
    have texts : Json.areFinite (fields.map .str) := Json.areFinite_iff.mpr fun v mem => by
      obtain ⟨field, -, rfl⟩ := List.mem_map.mp mem
      rfl
    simp [toJson, Json.isFinite_single, Json.isFinite, Json.haveFinite, texts, doubles]
  | geoDistance distance field latitude longitude =>
    rw [isFinite_circle, doubles, List.forall_mem_cons, List.forall_mem_singleton]
  | phrase field v =>
    rw [toJson, Json.isFinite_single, Json.isFinite_single, isFinite_literal]
    simp only [mem_doubles_phrase]
  | wildcard field pattern =>
    simp [toJson, Json.isFinite_single, Json.isFinite, Json.haveFinite, doubles]
  | range field operator bound =>
    rw [toJson, Json.isFinite_single, Json.isFinite_single, Json.isFinite_single, isFinite_literal]
    simp only [mem_doubles_range]
  | present field => exact ⟨fun _ => List.forall_mem_nil _, fun _ => rfl⟩

end Clause

namespace Query

variable {f : FilterState} {c : Connection} {q : Query}

theorem isFinite_toJson (q : Query) : q.toJson.isFinite ↔ ∀ x ∈ q.doubles, Number.isFinite x := by
  have list : ∀ clauses : List Clause, Json.areFinite (clauses.map (·.toJson)) ↔
      ∀ x ∈ clauses.flatMap Clause.doubles, Number.isFinite x := by
    intro clauses
    rw [Json.areFinite_iff, List.forall_mem_map]
    constructor
    · intro each x mem
      obtain ⟨clause, here, inside⟩ := List.mem_flatMap.mp mem
      exact clause.isFinite_toJson.mp (each clause here) x inside
    · intro each clause here
      exact clause.isFinite_toJson.mpr fun x inside =>
        each x (List.mem_flatMap.mpr ⟨clause, here, inside⟩)
  have lists : q.toJson.isFinite = (Json.areFinite (q.buckets.must.map (·.toJson)) &&
      (Json.areFinite (q.buckets.filter.map (·.toJson)) &&
        Json.areFinite (q.buckets.mustNot.map (·.toJson)))) := by
    simp [toJson, Json.isFinite, Json.haveFinite, Json.areFinite]
  rw [lists, Bool.and_eq_true, Bool.and_eq_true, list, list, list, doubles, List.flatMap_append,
    List.flatMap_append, List.forall_mem_append, List.forall_mem_append, and_assoc]

/-- The doubles of a condition that is compiled are finite. -/
theorem isFinite_of_mem_clauseOf {g : FieldFilter} {x : Float}
    (read : Literal.ofText g.value = .ok (literalOf g)) (mem : x ∈ (clauseOf g).doubles) :
    Number.isFinite x := by
  have literal : literalOf g = .real x := by
    unfold clauseOf at mem
    cases o : g.operator with
    | eq | neq =>
      rw [o] at mem
      exact Clause.mem_doubles_phrase.mp mem
    | gt | gte | lt | lte =>
      rw [o] at mem
      exact Clause.mem_doubles_range.mp mem
    | contains | exist =>
      rw [o] at mem
      exact absurd mem List.not_mem_nil
  exact Literal.isFinite_of_ofText (literal ▸ read)

/-- The coordinates of a circle are finite, if there is a circle. -/
def SoundCenter (f : FilterState) : Prop :=
  f.geo.enabled → Number.isFinite f.geo.latitude ∧ Number.isFinite f.geo.longitude

theorem textClause_doubles (query : String) (fields : List String) :
    (textClause query fields).doubles = [] := by
  rcases textClause_cases query fields with ⟨text, -⟩ | ⟨text, -⟩ <;> rw [text] <;> rfl

/-- The doubles of the clauses that are not of conditions are those of the circle. -/
theorem forall_fixedClauses (f : FilterState) (c : Connection) :
    (∀ k, ∀ clause ∈ fixedClauses f c k, ∀ x ∈ clause.doubles, Number.isFinite x) ↔
      SoundCenter f := by
  constructor
  · intro each enabled
    have circle := each .filter (geoClause f.geo c) (by simp [fixedClauses, enabled])
    exact ⟨circle _ List.mem_cons_self, circle _ (List.mem_cons_of_mem _ List.mem_cons_self)⟩
  · intro sound k clause mem x inside
    cases k with
    | must =>
      rw [List.mem_singleton.mp mem, textClause_doubles] at inside
      cases inside
    | filter =>
      cases enabled : f.geo.enabled with
      | true =>
        simp only [fixedClauses, enabled, ↓reduceIte, List.mem_singleton] at mem
        rw [mem] at inside
        obtain ⟨latitude, longitude⟩ := sound enabled
        rcases List.mem_cons.mp inside with rfl | inside
        · exact latitude
        · rw [List.mem_singleton.mp inside]
          exact longitude
      | false => simp [fixedClauses, enabled] at mem
    | mustNot => cases mem

theorem mem_doubles {x : Float} :
    x ∈ q.doubles ↔ ∃ k, ∃ clause ∈ q.buckets.at k, x ∈ clause.doubles := by
  rw [doubles, List.mem_flatMap]
  constructor
  · rintro ⟨clause, mem, inside⟩
    rw [List.mem_append, List.mem_append] at mem
    rcases mem with (mem | mem) | mem
    · exact ⟨.must, clause, mem, inside⟩
    · exact ⟨.filter, clause, mem, inside⟩
    · exact ⟨.mustNot, clause, mem, inside⟩
  · rintro ⟨k, clause, mem, inside⟩
    refine ⟨clause, ?_, inside⟩
    rw [List.mem_append, List.mem_append]
    cases k with
    | must => exact .inl (.inl mem)
    | filter => exact .inl (.inr mem)
    | mustNot => exact .inr mem

/-- All doubles of a compiled query are finite exactly when those of its circle are. -/
theorem isFinite_compile (made : compile f c = .ok q) : q.toJson.isFinite ↔ SoundCenter f := by
  obtain ⟨conditions, read, -⟩ := compile_eq_ok_iff.mp made
  rw [isFinite_toJson, ← forall_fixedClauses f c]
  constructor
  · intro each k clause mem x inside
    refine each x (mem_doubles.mpr ⟨k, clause, ?_, inside⟩)
    rw [at_of_compile made]
    exact List.mem_append_left _ mem
  · intro each x mem
    obtain ⟨k, clause, mem, inside⟩ := mem_doubles.mp mem
    rw [at_of_compile made, List.mem_append] at mem
    rcases mem with fixed | own
    · exact each k clause fixed x inside
    · obtain ⟨g, kept, rfl⟩ := List.mem_map.mp own
      exact isFinite_of_mem_clauseOf ((at_of_ofFieldFilters read).1 g (List.mem_filter.mp kept).1)
        inside

/-- The doubles of a query around a finite point are written so that they read back. -/
theorem readsBack_of_compile (made : compile f c = .ok q) (sound : SoundCenter f) :
    ∀ x ∈ q.doubles, Json.ReadsBack x :=
  fun x mem => Json.readsBack_of_isFinite
    (q.isFinite_toJson.mp ((isFinite_compile made).mpr sound) x mem)

/-- The clause of a circle is that of the circle of the search. -/
theorem geoClause_of_mem (made : compile f c = .ok q) {k : Bucket} {distance field : String}
    {latitude longitude : Float}
    (mem : .geoDistance distance field latitude longitude ∈ q.buckets.at k) :
    .geoDistance distance field latitude longitude = geoClause f.geo c := by
  rw [at_of_compile made, List.mem_append] at mem
  rcases mem with fixed | own
  · cases k with
    | must =>
      have text := List.mem_singleton.mp fixed
      rcases textClause_cases f.query c.textFields with ⟨e, -⟩ | ⟨e, -⟩ <;> rw [e] at text <;>
        cases text
    | filter =>
      cases enabled : f.geo.enabled with
      | true => simpa [fixedClauses, enabled] using fixed
      | false => simp [fixedClauses, enabled] at fixed
    | mustNot => cases fixed
  · obtain ⟨g, -, same⟩ := List.mem_map.mp own
    unfold clauseOf at same
    split at same <;> cases same

/-- **Finite numbers.** No number in the document of a compiled query is infinite or a NaN exactly
when the coordinates of its circle are finite, whatever its conditions are. The distance of the
circle is a decimal numeral and the unit exactly when the radius is finite. The body of every request
that a search sends is a text of the JSON standard exactly when the coordinates are finite. -/
theorem compile_finite (made : compile f c = .ok q) :
    (q.toJson.isFinite ↔ SoundCenter f) ∧
    (∀ k distance field latitude longitude,
      .geoDistance distance field latitude longitude ∈ q.buckets.at k →
      ((∃ s : Spelling, s.Tidy ∧ distance.toList = s.chars ++ f.geo.unit.name.toList) ↔
        f.geo.radius.value?.isSome)) ∧
    ∀ (env : Environment) (s : Script) (i : Nat) (sent : Request),
      ((Explorer.search env c f).run s).1[i]? = some sent →
      (Json.StandardBytes sent.body ↔ SoundCenter f) := by
  have finite := isFinite_compile made
  refine ⟨finite, ?_, ?_⟩
  · intro k distance field latitude longitude mem
    obtain ⟨rfl, -⟩ := Clause.geoDistance.inj (geoClause_of_mem made mem)
    exact Distance.exists_spelling_iff f.geo.radius f.geo.unit
  · intro env s i sent asked
    cases demo : c.demoMode with
    | true =>
      simp only [Explorer.search, demo, ↓reduceIte] at asked
      cases asked
    | false =>
      rw [Explorer.run_search demo made] at asked
      obtain ⟨node, attempt, -, request, rfl⟩ := Gateway.sent_of_run_execute asked
      rw [Request.body_outgoing, Gateway.body_of_request request, ← finite]
      exact Json.standardBytes_iff q.toJson

/-- A search in the circle of the defaults. -/
def nearby : FilterState := { geo := { enabled := true } }

def nearbyQuery : Query :=
  ⟨0, 20, { must := [.matchAll], filter := [.geoDistance "50km" "location" 34.0522 (-118.2437)] }⟩

theorem compile_finite_nearby :
    compile nearby {} = .ok nearbyQuery ∧ nearbyQuery.toJson.isFinite ∧
      (∃ s : Spelling, s.Tidy ∧ "50km".toList = s.chars ++ "km".toList) ∧
      ∀ (env : Environment) (s : Script) (i : Nat) (sent : Request),
        ((Explorer.search env {} nearby).run s).1[i]? = some sent → Json.StandardBytes sent.body := by
  obtain ⟨document, distance, body⟩ := compile_finite (f := nearby) (c := {}) (q := nearbyQuery) rfl
  have sound : SoundCenter nearby := fun _ => ⟨by decide, by decide⟩
  refine ⟨rfl, document.mpr sound, ?_, fun env s i sent asked => (body env s i sent asked).mpr sound⟩
  exact (distance .filter "50km" "location" 34.0522 (-118.2437) List.mem_cons_self).mpr rfl

/-- What is read from a latitude of `nan` and a radius of `inf`. -/
def nowhere : FilterState :=
  { geo := { enabled := true, latitude := nan, radius := .real (infinity false) } }

def nowhereQuery : Query :=
  ⟨0, 20, { must := [.matchAll], filter := [.geoDistance "infkm" "location" nan (-118.2437)] }⟩

/-- Such a circle passes and is compiled, to a document that is no text of the JSON standard and with
a distance that is no number. -/
theorem circle_without_center :
    FilterState.rule (.obj [("geo", .obj [("enabled", .bool true), ("latitude", .str "nan"),
      ("radius", .str "inf")])]) = .passed nowhere ∧
    Connection.rule (.obj []) = .passed {} ∧
    compile nowhere {} = .ok nowhereQuery ∧
    ¬ nowhereQuery.toJson.isFinite ∧
    ¬ Json.StandardBytes nowhereQuery.toJson.bytes ∧
    ¬ ∃ s : Spelling, s.Tidy ∧ "infkm".toList = s.chars ++ "km".toList := by
  have compiled : compile nowhere {} = .ok nowhereQuery := rfl
  have lost : ¬ nowhereQuery.toJson.isFinite := by
    rw [isFinite_compile compiled]
    intro sound
    have latitude : isFinite nan = true := (sound rfl).1
    exact absurd latitude (by decide)
  refine ⟨rfl, rfl, compiled, lost, ?_, ?_⟩
  · rw [Json.standardBytes_iff]
    exact lost
  · intro spelt
    have finite := (Distance.exists_spelling_iff (.real (infinity false)) .km).mp spelt
    exact absurd finite (by decide)

end Query

end IndexExplorer
