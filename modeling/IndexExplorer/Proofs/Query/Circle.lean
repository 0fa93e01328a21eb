import IndexExplorer.Proofs.Query.Distance
import IndexExplorer.Proofs.Query.Meaning

/-!
What the clause of a circle keeps.

The clause is an object with the distance under one name and the center under the name of the field.
Both are in it unless the field has the name of the distance: the center is written last and takes
its place.

* `part_circle`: the object of a circle, for both kinds of fields;
* `circle_of_compile`: it is the first clause of its list;
* `compile_circle`: what can be read from it, and which circles it tells apart.
-/
namespace IndexExplorer

namespace Query

variable {f f' : FilterState} {c c' : Connection} {q q' : Query}

/-- The point in the middle of a circle, as it is written. -/
def center (g : GeoFilter) : Json := .obj [("lat", .float g.latitude), ("lon", .float g.longitude)]

/-- The distance of a circle, as it is written. -/
def distance (g : GeoFilter) : String := Distance.text g.radius g.unit.name

/-- The members of the object of a circle in a field. -/
def circle (g : GeoFilter) (field : String) : Members :=
  if field = "distance" then [("distance", center g)]
  else [("distance", .str (distance g)), (field, center g)]

theorem toJson_geoClause (g : GeoFilter) (c : Connection) :
    (geoClause g c).toJson = Clause.single "geo_distance" (.obj (circle g (geoField g c))) := by
  rw [geoClause, Clause.toJson, Clause.circle_members]
  rfl

theorem part_single (name : String) (v : Json) : part (Clause.single name v) name = v := by
  simp [part, Clause.single, Json.members?, Members.getOrNull, Named.get?_cons_self]

/-- The center of a circle stands under the name of its field, whatever that is. -/
theorem part_circle (g : GeoFilter) (field : String) :
    part (.obj (circle g field)) field = center g := by
  unfold circle
  split
  · rename_i same
    rw [same]
    simp [part, Json.members?, Members.getOrNull, Named.get?_cons_self]
  · rename_i other
    simp [part, Json.members?, Members.getOrNull, Named.get?_cons_self,
      Named.get?_cons_of_ne _ _ (Ne.symm other)]

/-- The clause of a circle comes first in its list. -/
theorem circle_of_compile (made : compile f c = .ok q) (enabled : f.geo.enabled) :
    ∃ rest, clausesIn q.toJson .filter =
      Clause.single "geo_distance" (.obj (circle f.geo (geoField f.geo c))) :: rest := by
  rw [clausesIn_toJson, at_of_compile made]
  simp only [fixedClauses, enabled, ↓reduceIte, List.cons_append, List.nil_append, List.map_cons,
    toJson_geoClause]
  exact ⟨_, rfl⟩

/-- Centers that are written alike are the same point. -/
theorem center_inj {g g' : GeoFilter} (same : center g = center g') :
    g.latitude = g'.latitude ∧ g.longitude = g'.longitude := by
  simpa [center] using same

/-- Distances that are written alike are the same as numbers of the same unit. -/
theorem distance_inj {g g' : GeoFilter} {v v' : ℚ} (finite : g.radius.value? = some v)
    (finite' : g'.radius.value? = some v') (same : distance g = distance g') :
    v = v' ∧ g.unit = g'.unit := by
  obtain ⟨r, read, value⟩ := Distance.read?_text g.unit finite
  obtain ⟨r', read', value'⟩ := Distance.read?_text g'.unit finite'
  have both : (r, g.unit) = (r', g'.unit) := by
    have texts : Distance.text g.radius g.unit.name = Distance.text g'.radius g'.unit.name := same
    rw [texts, read'] at read
    exact (Option.some.inj read).symm
  obtain ⟨rfl, units⟩ := Prod.mk.inj both
  rw [value] at value'
  exact ⟨Option.some.inj value', units⟩

/-- Circles with the same members have the same field and the same center, and the same distance
unless the field has its name. -/
theorem circle_inj {g g' : GeoFilter} {field field' : String}
    (same : circle g field = circle g' field') :
    field = field' ∧ center g = center g' ∧ (field ≠ "distance" → distance g = distance g') := by
  unfold circle at same
  by_cases own : field = "distance" <;> by_cases own' : field' = "distance"
  · rw [if_pos own, if_pos own'] at same
    simp only [List.cons.injEq, Prod.mk.injEq, true_and, and_true] at same
    exact ⟨own.trans own'.symm, same, fun other => absurd own other⟩
  · rw [if_pos own, if_neg own'] at same
    simp at same
  · rw [if_neg own, if_pos own'] at same
    simp at same
  · rw [if_neg own, if_neg own'] at same
    simp only [List.cons.injEq, Prod.mk.injEq, true_and, and_true, Json.str.injEq] at same
    exact ⟨same.2.1, same.2.2, fun _ => same.1⟩

/-- **Circles.** The first filter of a search in a circle has the center of the circle under the name
of its field. Unless this is the name of the distance, there is nothing else in it but the distance,
from which the radius is read as the same number and the unit as the same unit; otherwise there is
nothing else. Two searches with the same first filter have the same field and the same center, and
the same radius and unit unless the field has the name of the distance. -/
theorem compile_circle {v : ℚ} (made : compile f c = .ok q) (enabled : f.geo.enabled)
    (finite : f.geo.radius.value? = some v) :
    ∃ first rest, clausesIn q.toJson .filter = first :: rest ∧
      part (part first "geo_distance") (geoField f.geo c) = center f.geo ∧
      (geoField f.geo c ≠ "distance" → ∃ text r,
        part first "geo_distance" =
          .obj [("distance", .str text), (geoField f.geo c, center f.geo)] ∧
        Distance.read? text = some (r, f.geo.unit) ∧ r.value? = some v) ∧
      (geoField f.geo c = "distance" →
        part first "geo_distance" = .obj [("distance", center f.geo)]) ∧
      ∀ (f' : FilterState) (c' : Connection) (q' : Query) (v' : ℚ), compile f' c' = .ok q' →
        f'.geo.enabled → f'.geo.radius.value? = some v' →
        (clausesIn q'.toJson .filter).head? = some first →
        geoField f.geo c = geoField f'.geo c' ∧ f.geo.latitude = f'.geo.latitude ∧
          f.geo.longitude = f'.geo.longitude ∧
          (geoField f.geo c ≠ "distance" → v = v' ∧ f.geo.unit = f'.geo.unit) := by
  obtain ⟨rest, filters⟩ := circle_of_compile made enabled
  refine ⟨_, rest, filters, ?_, ?_, ?_, ?_⟩
  · rw [part_single]
    exact part_circle f.geo (geoField f.geo c)
  · intro other
    obtain ⟨r, read, value⟩ := Distance.read?_text f.geo.unit finite
    exact ⟨_, r, by rw [part_single, circle, if_neg other]; rfl, read, value⟩
  · intro same
    rw [part_single, circle, if_pos same]
  · intro f' c' q' v' made' enabled' finite' same
    obtain ⟨rest', filters'⟩ := circle_of_compile made' enabled'
    rw [filters', List.head?_cons] at same
    have members : circle f.geo (geoField f.geo c) = circle f'.geo (geoField f'.geo c') := by
      simpa [Clause.single] using (Option.some.inj same).symm
    obtain ⟨fields, centers, distances⟩ := circle_inj members
    obtain ⟨latitude, longitude⟩ := center_inj centers
    exact ⟨fields, latitude, longitude, fun other => distance_inj finite finite' (distances other)⟩

/-- A search within fifty miles, in a field of its own. -/
def hills : FilterState := { geo := { enabled := true, unit := .mi, geoField := some "coords" } }

def hillsQuery : Query :=
  ⟨0, 20, { must := [.matchAll], filter := [.geoDistance "50mi" "coords" 34.0522 (-118.2437)] }⟩

theorem compile_circle_hills :
    compile hills {} = .ok hillsQuery ∧ hills.geo.enabled ∧
      hills.geo.radius.value? = some ((50 : Int) : ℚ) ∧
      ∃ first rest, clausesIn hillsQuery.toJson .filter = first :: rest ∧ ∃ text r,
        part first "geo_distance" = .obj [("distance", .str text), ("coords", center hills.geo)] ∧
        Distance.read? text = some (r, .mi) ∧ r.value? = some ((50 : Int) : ℚ) := by
  obtain ⟨first, rest, filters, -, kept, -, -⟩ :=
    compile_circle (f := hills) (c := {}) (q := hillsQuery) (v := ((50 : Int) : ℚ)) rfl rfl rfl
  exact ⟨rfl, rfl, rfl, first, rest, filters, kept (by decide)⟩

/-- A search in a circle whose field has the name of the distance. -/
def within (radius : Amount) : FilterState :=
  { geo := { enabled := true, radius := radius, geoField := some "distance" } }

def withinQuery (distance : String) : Query :=
  ⟨0, 20, { must := [.matchAll],
            filter := [.geoDistance distance "distance" 34.0522 (-118.2437)] }⟩

/-- Two such circles that pass, of different radius, have the same clause, with no text under the
name of the distance. -/
theorem distance_replaced_by_center :
    FilterState.rule (.obj [("geo", .obj [("enabled", .bool true),
      ("geo_field", .str "distance")])]) = .passed (within (.whole 50)) ∧
    FilterState.rule (.obj [("geo", .obj [("enabled", .bool true), ("radius", .int 60),
      ("geo_field", .str "distance")])]) = .passed (within (.real (Number.ofInt 60))) ∧
    compile (within (.whole 50)) {} = .ok (withinQuery "50km") ∧
    compile (within (.real (Number.ofInt 60))) {} = .ok (withinQuery "60km") ∧
    clausesIn (withinQuery "50km").toJson .filter = clausesIn (withinQuery "60km").toJson .filter ∧
    ∀ first ∈ clausesIn (withinQuery "50km").toJson .filter, ∀ text,
      part (part first "geo_distance") "distance" ≠ .str text := by
  have clause : ∀ distance : String, clausesIn (withinQuery distance).toJson .filter =
      [Clause.single "geo_distance" (.obj [("distance", center (within (.whole 50)).geo)])] :=
    fun _ => rfl
  refine ⟨rfl, rfl, rfl, rfl, (clause _).trans (clause _).symm, ?_⟩
  intro first mem text
  rw [clause, List.mem_singleton] at mem
  rw [mem, part_single]
  exact nofun

end Query

end IndexExplorer
