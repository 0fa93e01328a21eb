import IndexExplorer.Proofs.Url.Rejoined

/-!
The query of a URL in the text of that URL.

* `UrlParts.query_of_split`: the query of a text stands behind its first question mark, whatever is
  in front of it;
* `front_of_read`: no part of a URL in front of its query has a question mark or number sign in it;
* `query_of_read`: so the query of the text of a URL is the query of the URL.
-/
namespace IndexExplorer

namespace UrlParts

open Url

/-- What stands behind the first question mark of a text, up to its first number sign. -/
def queryIn (cs : List Char) : List Char := (cutAt '?' (cutAt '#' cs).1).2

theorem cutAt_append_of_notMem {sep : Char} {front : List Char} (h : sep ∉ front)
    (cs : List Char) :
    cutAt sep (front ++ cs) = (front ++ (cutAt sep cs).1, (cutAt sep cs).2) := by
  have kept : ∀ c ∈ front, (!decide (c = sep)) = true := fun c mem => by
    simp [eq_false_of_notMem h c mem]
  simp [cutAt, before, List.takeWhile_append_of_pos kept, List.dropWhile_append_of_pos kept]

/-- What is in front of the query does not count. -/
theorem queryIn_append {front : List Char} (plain : ∀ c ∈ front, endsPath c = false)
    (cs : List Char) : queryIn (front ++ cs) = queryIn cs := by
  have marks : '?' ∉ front ∧ '#' ∉ front :=
    ⟨fun mem => absurd (plain _ mem) (by decide), fun mem => absurd (plain _ mem) (by decide)⟩
  rw [queryIn, cutAt_append_of_notMem marks.2, cutAt_append_of_notMem marks.1]
  rfl

theorem queryIn_marked {query fragment : Option (List Char)}
    (plain : ∀ q, query = some q → '#' ∉ q) :
    queryIn (marked '?' query ++ marked '#' fragment) = query.getD [] := by
  have front : '#' ∉ marked '?' query := by
    cases query with
    | none => exact List.not_mem_nil
    | some q => simpa [marked] using plain q rfl
  have bare := cutAt_marked (List.not_mem_nil (a := '?')) query
  rw [List.nil_append] at bare
  rw [queryIn, cutAt_marked front, bare]

theorem not_endsPath_of_isSchemeChar {c : Char} (h : isSchemeChar c) : endsPath c = false := by
  have all : ∀ n : Fin 0x80, isSchemeChar (Char.ofNat n.val) = true →
      endsPath (Char.ofNat n.val) = false := by decide
  exact forall_ascii (p := fun c => isSchemeChar c = true → endsPath c = false) all
    (ascii_of_isSchemeChar h) h

/-- A scheme is taken from the front of a text. -/
theorem takeScheme_suffix (cs : List Char) :
    ∃ front, cs = front ++ (takeScheme cs).2 ∧ ∀ c ∈ front, endsPath c = false := by
  have whole := before_append (· = ':') cs
  have stops := stops_before (· = ':') cs
  rw [takeScheme]
  generalize before (· = ':') cs = cut at *
  obtain ⟨name, rest⟩ := cut
  dsimp only at *
  split
  · rename_i c tail colon after
    obtain rfl : colon = ':' := by simpa using stops colon rfl
    split
    · rename_i scheme
      simp only [Bool.and_eq_true, List.all_eq_true] at scheme
      refine ⟨(c :: tail) ++ [':'], by simp [← whole], fun d mem => ?_⟩
      rcases List.mem_append.mp mem with mem | mem
      · exact not_endsPath_of_isSchemeChar (scheme.2 d mem)
      · obtain rfl := List.mem_singleton.mp mem
        decide
    · exact ⟨[], rfl, List.forall_mem_nil _⟩
  · exact ⟨[], rfl, List.forall_mem_nil _⟩

/-- So is an authority. -/
theorem takeAuthority_suffix (cs : List Char) :
    ∃ front, cs = front ++ (takeAuthority cs).2 ∧ ∀ c ∈ front, endsPath c = false := by
  by_cases slashes : ∃ after, cs = '/' :: '/' :: after
  · obtain ⟨after, rfl⟩ := slashes
    refine ⟨'/' :: '/' :: (before endsAuthority after).1, ?_, fun c mem => ?_⟩
    · rw [List.cons_append, List.cons_append, takeAuthority, before_append]
    · rcases List.mem_cons.mp mem with rfl | mem
      · decide
      rcases List.mem_cons.mp mem with rfl | mem
      · decide
      have inside := not_of_mem_before mem
      simp only [endsAuthority, Bool.or_eq_false_iff] at inside
      simp only [endsPath, inside, Bool.or_self]
  · rw [takeAuthority_of_bare fun after e => slashes ⟨after, e⟩]
    exact ⟨[], rfl, List.forall_mem_nil _⟩

/-- The query of a text without controls. -/
theorem query_of_split {text : String} {parts : UrlParts}
    (printable : ∀ c ∈ text.toList, isControl c = false) (apart : split text = .ok parts) :
    parts.query = String.ofList (queryIn text.toList) := by
  let visible := text.toList.dropWhile (·.toNat ≤ 0x20)
  have leading : queryIn text.toList = queryIn visible := by
    have blank : ∀ c ∈ text.toList.takeWhile (·.toNat ≤ 0x20), endsPath c = false := by
      intro c mem
      have low := List.mem_takeWhile_imp mem
      by_contra ends
      simp only [endsPath, Bool.not_eq_false, Bool.or_eq_true, decide_eq_true_eq] at ends
      rcases ends with rfl | rfl <;> exact absurd low (by decide)
    conv => lhs; rw [← List.takeWhile_append_dropWhile (p := (·.toNat ≤ 0x20)) (l := text.toList)]
    exact queryIn_append blank visible
  have kept : (visible.filter fun c => c ≠ '\t' && c ≠ '\r' && c ≠ '\n') = visible :=
    filter_of_printable fun c mem =>
      printable c ((List.dropWhile_suffix (·.toNat ≤ 0x20)).subset mem)
  obtain ⟨named, scheme, plain⟩ := takeScheme_suffix visible
  obtain ⟨placed, authority, fits⟩ := takeAuthority_suffix (takeScheme visible).2
  have behind : queryIn text.toList = queryIn (takeAuthority (takeScheme visible).2).2 := by
    rw [leading]
    conv => lhs; rw [scheme, queryIn_append plain, authority, queryIn_append fits]
  unfold split at apart
  simp only [visible, kept] at apart behind
  split at apart
  · cases apart
  · obtain rfl := Except.ok.inj apart
    rw [behind]
    rfl

end UrlParts

namespace Url

open Text UrlParts

variable {p : Spelling} {u : Url} {text : String}

/-! ## What is in front of the query -/

theorem takeScheme_suffix (cs : List Char) : (takeScheme cs).2 <:+ cs := by
  have whole := before_append (!isSchemeChar ·) cs
  rw [takeScheme]
  generalize before (!isSchemeChar ·) cs = cut at *
  obtain ⟨name, rest⟩ := cut
  dsimp only at *
  split
  · rename_i after
    cases name with
    | nil => exact ⟨[':'], whole⟩
    | cons c name =>
      dsimp only
      split
      · exact ⟨c :: name ++ [':'], by rw [← whole]; simp⟩
      · exact List.suffix_refl cs
  · exact List.suffix_refl cs

/-- Each character of an authority is one of the text, and does not end the authority. -/
theorem endsAuthority_of_spelling {c : Char} {cs : List Char} (mem : c ∈ (spelling cs).authority) :
    c ∈ cs ∧ endsAuthority c = false := by
  have inside : c ∈ (takeAuthority (takeScheme cs).2).1 := mem
  obtain ⟨slashes, plain, -⟩ := takeAuthority_of_ne_nil (List.ne_nil_of_mem inside)
  refine ⟨(takeScheme_suffix cs).subset ?_, plain c inside⟩
  rw [slashes]
  simp [inside]

theorem isSchemeChar_of_spelling {c : Char} {cs : List Char} (mem : c ∈ (spelling cs).scheme) :
    isSchemeChar c := (takeScheme_of_ne_nil (List.ne_nil_of_mem mem)).2.1 c mem

/-- A character that neither ends a part in front of the query nor is a control. -/
def isInner (c : Char) : Bool := !endsPath c && !isControl c

theorem isInner_of_fits {c : Char} (h : fits c) : isInner c := by
  simp only [fits, endsAuthority, isInner, endsPath, Bool.and_eq_true, Bool.not_eq_true',
    Bool.or_eq_false_iff] at h ⊢
  exact ⟨⟨h.1.1.1.2, h.1.1.2⟩, h.1.2⟩

theorem isInner_of_isSchemeChar {c : Char} (h : isSchemeChar c) : isInner c := by
  simp [isInner, not_endsPath_of_isSchemeChar h, Clean.not_isControl_of_isSchemeChar h]

/-- The host that is read from a text has no character in it that would end a part. -/
theorem isInner_host (own : read text = .ok u) : ∀ c ∈ u.host.toList, isInner c := by
  obtain ⟨fine, spells⟩ := read_eq_ok_iff.mp own
  intro c mem
  rcases host_cases spells.host with encoded | ⟨inner, host, -, same⟩
  · exact isInner_of_fits (fits_of_encoded encoded c mem).1
  · have place : c ∈ afterLast '@' (spelling text.toList).authority := by
      refine hostText_subset _ ?_
      rw [host]
      simp [← same, mem]
    obtain ⟨given, inside⟩ :=
      endsAuthority_of_spelling ((afterLast_suffix '@' _).subset place)
    simp only [endsAuthority, Bool.or_eq_false_iff] at inside
    simp [isInner, endsPath, inside, not_isControl_of_textFault fine c given]

theorem isInner_authority (own : read text = .ok u) : ∀ c ∈ u.written.authority, isInner c := by
  obtain ⟨-, spells⟩ := read_eq_ok_iff.mp own
  intro c mem
  rcases List.mem_append.mp mem with user | place
  · unfold userPart at user
    split at user
    · cases user
    rcases List.mem_append.mp user with user | sign
    · have encoded : Percent.Encoded inUserInfo u.userInfo.toList :=
        spells.userInfo ▸ Percent.encoded_encode _ _
      rcases encoded c user with kept | mark
      · exact isInner_of_fits (fits_of_inUserInfo kept)
      · exact isInner_of_fits (fits_of_mem_marks mark)
    · obtain rfl := List.mem_singleton.mp sign
      decide
  rcases List.mem_append.mp place with host | port
  · rcases mem_hostPart host with host | ⟨-, rfl | rfl⟩
    · exact isInner_host own c host
    · decide
    · decide
  · exact isInner_of_fits (fits_portPart port).1

theorem isInner_path (own : read text = .ok u) : ∀ c ∈ u.path.toList, isInner c := by
  obtain ⟨-, spells⟩ := read_eq_ok_iff.mp own
  have encoded : Percent.Encoded inPath u.path.toList := spells.path ▸ Percent.encoded_encode _ _
  intro c mem
  have printable := Clean.not_isControl_of_encoded encoded (fun c => Clean.lost_of_isControl) c mem
  have question : c ≠ '?' := fun e => encoded.notMem (by decide) (by decide) (e ▸ mem)
  have number : c ≠ '#' := fun e => encoded.notMem (by decide) (by decide) (e ▸ mem)
  simp [isInner, endsPath, question, number, printable]

/-- No part of a URL in front of its query has a character in it that would end the part. -/
theorem front_of_read (own : read text = .ok u) : ∀ c ∈ u.front, isInner c := by
  obtain ⟨-, spells⟩ := read_eq_ok_iff.mp own
  intro c mem
  rcases List.mem_append.mp mem with scheme | behind
  · split at scheme
    · cases scheme
    rcases List.mem_append.mp scheme with scheme | colon
    · rw [spells.scheme, String.toList_ofList] at scheme
      obtain ⟨d, given, rfl⟩ := List.mem_map.mp scheme
      exact isInner_of_isSchemeChar (isSchemeChar_toLower (isSchemeChar_of_spelling given))
    · obtain rfl := List.mem_singleton.mp colon
      decide
  rcases List.mem_append.mp behind with authority | path
  · split at authority
    · cases authority
    rcases List.mem_cons.mp authority with rfl | authority
    · decide
    rcases List.mem_cons.mp authority with rfl | authority
    · decide
    exact isInner_authority own c authority
  · exact isInner_path own c path

/-! ## The query -/

/-- The query of a URL is found again in its text. -/
theorem query_of_read {parts : UrlParts} (own : read text = .ok u)
    (apart : split u.text = .ok parts) : parts.query = u.query.getD "" := by
  obtain ⟨-, spells⟩ := read_eq_ok_iff.mp own
  have inner := front_of_read own
  simp only [isInner, Bool.and_eq_true, Bool.not_eq_true'] at inner
  have printable : ∀ c ∈ u.text.toList, isControl c = false := by
    intro c mem
    rw [text_front, List.mem_append, List.mem_append] at mem
    rcases mem with mem | mem | mem
    · exact (inner c mem).2
    · exact Clean.not_isControl_marked spells.encoded_query (fun c => Clean.lost_of_isControl) (by decide) c mem
    · exact Clean.not_isControl_marked spells.encoded_fragment (fun c => Clean.lost_of_isControl) (by decide) c mem
  have numberless : ∀ q, u.written.query = some q → '#' ∉ q := by
    intro q some
    obtain ⟨given, own, rfl⟩ := Option.map_eq_some_iff.mp some
    exact (spells.encoded_query given own).notMem (by decide) (by decide)
  rw [query_of_split printable apart, text_front, queryIn_append fun c mem => (inner c mem).1,
    queryIn_marked numberless, written]
  cases u.query <;> simp

end Url

end IndexExplorer
