import IndexExplorer.Proofs.Url.Normal

/-!
Taking an absolute text apart without changing it.

* `split_text`: the parts are the pieces that a URL is read from, unless something is wrong with the
  authority;
* `split_normal`: the text of a URL in normal form comes apart, and its host is found again.
-/
namespace IndexExplorer

namespace UrlParts

open Url

theorem cutAt_marked {sep : Char} {front : List Char} (h : sep ∉ front)
    (part : Option (List Char)) :
    cutAt sep (front ++ marked sep part) = (front, part.getD []) := by
  cases part with
  | none => simp [marked, cutAt_of_notMem h]
  | some cs => exact cutAt_append h cs

variable {p : Spelling}

theorem takeScheme_of_absolute (h : p.Absolute) :
    takeScheme p.text = (p.scheme.map Char.toLower, '/' :: '/' :: (p.authority ++ p.tail)) := by
  obtain ⟨c, head, letter⟩ := h.letter
  have colonless : ':' ∉ p.scheme := fun mem => absurd (h.scheme _ mem) (by decide)
  have stops : Stops (· = ':') (':' :: '/' :: '/' :: (p.authority ++ p.tail)) := by
    intro d head
    simpa using (Option.some.inj head).symm
  have cut := before_append_of_stops (eq_false_of_notMem colonless) stops
  have chars : p.scheme.all isSchemeChar := List.all_eq_true.mpr h.scheme
  rw [takeScheme, Spelling.text, cut]
  cases scheme : p.scheme with
  | nil => simp [scheme] at head
  | cons d rest =>
    obtain rfl : d = c := by simpa [scheme] using head
    rw [scheme] at chars
    simp [letter, chars]

theorem dropWhile_text (h : p.Absolute) : p.text.dropWhile (·.toNat ≤ 0x20) = p.text := by
  obtain ⟨c, head, letter⟩ := h.letter
  have all : ∀ n : Fin 0x80, (Char.ofNat n.val).isAlpha = true →
      ¬ (Char.ofNat n.val).toNat ≤ 0x20 := by decide
  have visible : ¬ c.toNat ≤ 0x20 :=
    forall_ascii (p := fun c => c.isAlpha = true → ¬ c.toNat ≤ 0x20) all
      (ascii_of_isAlphanum (by simp [Char.isAlphanum, letter])) letter
  rw [Spelling.text]
  cases scheme : p.scheme with
  | nil => simp [scheme] at head
  | cons d rest =>
    obtain rfl : d = c := by simpa [scheme] using head
    rw [List.cons_append, List.dropWhile_cons_of_neg (by simpa using visible)]

theorem filter_of_printable {cs : List Char} (printable : ∀ c ∈ cs, isControl c = false) :
    (cs.filter fun c => c ≠ '\t' && c ≠ '\r' && c ≠ '\n') = cs := by
  rw [List.filter_eq_self]
  intro c mem
  have visible := printable c mem
  by_contra blank
  have control : c = '\t' ∨ c = '\r' ∨ c = '\n' := by
    simp only [Bool.and_eq_true, decide_eq_true_eq] at blank
    tauto
  rcases control with rfl | rfl | rfl
  · exact absurd visible (by decide)
  · exact absurd visible (by decide)
  · exact absurd visible (by decide)

theorem cutAt_tail (h : p.Absolute) :
    cutAt '#' p.tail = (p.path ++ marked '?' p.query, p.fragment.getD []) ∧
      cutAt '?' (p.path ++ marked '?' p.query) = (p.path, p.query.getD []) := by
  have path : ∀ c ∈ p.path, c ≠ '?' ∧ c ≠ '#' := by
    intro c mem
    simpa [endsPath] using h.path c mem
  have hash : '#' ∉ p.path ++ marked '?' p.query := by
    rw [List.mem_append, not_or]
    refine ⟨fun mem => (path _ mem).2 rfl, ?_⟩
    cases query : p.query with
    | none => exact List.not_mem_nil
    | some q => simpa [marked] using h.query q query
  exact ⟨cutAt_marked hash p.fragment, cutAt_marked (fun mem => (path _ mem).1 rfl) p.query⟩

/-- An absolute text without controls comes apart into the pieces that a URL is read from. -/
theorem split_text (h : p.Absolute) (printable : ∀ c ∈ p.text, isControl c = false) {text : String}
    (spelled : text.toList = p.text) :
    split text = match authorityFault p.authority with
      | some reason => .error (.badValue (.address reason))
      | none => .ok ⟨String.ofList (p.scheme.map Char.toLower), String.ofList p.authority,
          String.ofList p.path, String.ofList (p.query.getD []),
          String.ofList (p.fragment.getD [])⟩ := by
  have authority : before (fun c => c = '/' || c = '?' || c = '#') (p.authority ++ p.tail) =
      (p.authority, p.tail) := before_append_of_stops h.authority (stops_tail h)
  obtain ⟨fragment, query⟩ := cutAt_tail h
  cases fault : authorityFault p.authority <;>
    simp only [split, spelled, dropWhile_text h, filter_of_printable printable, takeScheme_of_absolute h,
      authority, fault, fragment, query]

/-- The text of a URL in normal form comes apart, and its host is found again. -/
theorem split_normal {u : Url} (h : Normal u) :
    ∃ parts, split u.text = .ok parts ∧ parts.host = u.host := by
  have scheme : u.scheme ≠ "" := by
    obtain ⟨c, head, -⟩ := h.letter
    rintro none
    rw [none] at head
    cases head
  obtain ⟨sound, host⟩ := h.authority
  have apart := split_text h.absolute_written h.not_isControl_written
    (text_written scheme h.named).symm
  rw [sound] at apart
  refine ⟨_, apart, ?_⟩
  rw [host_eq, String.toList_ofList, host, String.ofList_toList]

end UrlParts

end IndexExplorer
