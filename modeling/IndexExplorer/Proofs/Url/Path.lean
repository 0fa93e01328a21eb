import IndexExplorer.Proofs.Url.Spelling

/-!
Paths without dot segments.

* `normalPath_eq`: a path is always what is left of its segments, with slashes between them;
* `rooted_normalPath`: a path that begins with a slash is empty afterwards or still does;
* `normalPath_append`: a segment that is no dot segment stays behind the rest as it is;
* `segment_of_normalPath`: a segment that is written behind a path was a part of what stood there;
* `read_append`: a path that is written behind a URL goes into the path and changes nothing else.
-/
namespace IndexExplorer.Url

open Text UrlParts

/-- A segment that leads nowhere or up. -/
def IsDots (part : List Char) : Prop := part = ['.'] ∨ part = ['.', '.']

instance (part : List Char) : Decidable (IsDots part) := inferInstanceAs (Decidable (_ ∨ _))

variable {out parts : List (List Char)}

theorem dropDots_append (parts rest : List (List Char)) :
    dropDots out (parts ++ rest) = dropDots (dropDots out parts) rest := by
  induction parts generalizing out with
  | nil => rfl
  | cons part parts ih =>
    simp only [List.cons_append, dropDots]
    split
    · exact ih
    · split
      · exact ih
      · exact ih

theorem dropDots_of_plain (plain : ∀ part ∈ parts, ¬ IsDots part) :
    dropDots out parts = out ++ parts := by
  induction parts generalizing out with
  | nil => simp [dropDots]
  | cons part parts ih =>
    have first := plain part List.mem_cons_self
    have later : dropDots (out ++ [part]) parts = out ++ [part] ++ parts :=
      ih fun p mem => plain p (List.mem_cons_of_mem part mem)
    simp only [IsDots, not_or] at first
    simp [dropDots, first, later]

/-- A leading empty segment stays. -/
theorem dropDots_rooted (out parts : List (List Char)) :
    ∃ more, dropDots ([] :: out) parts = [] :: more := by
  induction parts generalizing out with
  | nil => exact ⟨out, rfl⟩
  | cons part parts ih =>
    simp only [dropDots]
    split
    · exact ih out
    · split
      · cases out with
        | nil => simpa using ih []
        | cons first out => simpa using ih (first :: out).dropLast
      · exact ih (out ++ [part])

theorem normalPath_eq (cs : List Char) :
    normalPath cs = ['/'].intercalate (dropDots [] (Ip.splitAt '/' cs)) := by
  simp only [normalPath, List.contains_eq_mem]
  split
  · rfl
  · rename_i plain
    simp only [Bool.or_eq_true, decide_eq_true_eq, not_or] at plain
    have no_dots : ∀ part ∈ Ip.splitAt '/' cs, ¬ IsDots part := by
      rintro part mem (rfl | rfl)
      · exact plain.1 mem
      · exact plain.2 mem
    rw [dropDots_of_plain no_dots, List.nil_append, Ip.intercalate_splitAt]

theorem splitAt_of_rooted {cs : List Char} (rooted : Stops (· = '/') cs) :
    ∃ parts, Ip.splitAt '/' cs = [] :: parts := by
  cases cs with
  | nil => exact ⟨[], rfl⟩
  | cons c rest =>
    have slash : c = '/' := by simpa using rooted c rfl
    exact ⟨Ip.splitAt '/' rest, by simp [Ip.splitAt, slash]⟩

/-- The segments of a rooted path that are left. -/
theorem dropDots_of_rooted {cs : List Char} (rooted : Stops (· = '/') cs) :
    ∃ more, dropDots [] (Ip.splitAt '/' cs) = [] :: more := by
  obtain ⟨parts, split⟩ := splitAt_of_rooted rooted
  obtain ⟨more, left⟩ := dropDots_rooted [] parts
  refine ⟨more, ?_⟩
  rw [split]
  simpa [dropDots] using left

theorem rooted_normalPath {cs : List Char} (rooted : Stops (· = '/') cs) :
    Stops (· = '/') (normalPath cs) := by
  obtain ⟨more, left⟩ := dropDots_of_rooted rooted
  rw [normalPath_eq, left]
  cases more with
  | nil => exact nofun
  | cons next more =>
    intro c head
    rw [List.intercalate_cons_cons] at head
    simpa using (Option.some.inj head).symm

theorem intercalate_concat {sep : Char} (some : parts ≠ []) (part : List Char) :
    [sep].intercalate (parts ++ [part]) = [sep].intercalate parts ++ sep :: part := by
  induction parts with
  | nil => exact absurd rfl some
  | cons first parts ih =>
    cases parts with
    | nil => simp [List.intercalate_cons_cons]
    | cons next parts =>
      have later := ih (List.cons_ne_nil next parts)
      simp only [List.cons_append] at later ⊢
      simp only [List.intercalate_cons_cons, later, List.append_assoc]

/-- A segment behind a path that is no dot segment is the last one of the normal form. -/
theorem normalPath_append {cs part : List Char} (rooted : Stops (· = '/') cs) (whole : '/' ∉ part)
    (plain : ¬ IsDots part) : normalPath (cs ++ '/' :: part) = normalPath cs ++ '/' :: part := by
  obtain ⟨more, left⟩ := dropDots_of_rooted rooted
  have last : ∀ p ∈ [part], ¬ IsDots p := by simpa using plain
  rw [normalPath_eq, normalPath_eq, Ip.splitAt_append_sep, Ip.splitAt_of_notMem whole,
    dropDots_append, dropDots_of_plain last, left]
  exact intercalate_concat (List.cons_ne_nil _ _) part

/-! ## Which segments are left -/

/-- What is left are the first of the segments there were, and some of the new ones behind them. -/
theorem dropDots_cases (out parts : List (List Char)) :
    ∃ k new, dropDots out parts = out.take k ++ new ∧ ∀ p ∈ new, p ∈ parts ∧ ¬ IsDots p := by
  induction parts generalizing out with
  | nil => exact ⟨out.length, [], by simp [dropDots], by simp⟩
  | cons part parts ih =>
    by_cases one : part = ['.']
    · obtain ⟨k, new, left, own⟩ := ih out
      refine ⟨k, new, by simp [dropDots, one, left], fun p mem => ?_⟩
      exact ⟨List.mem_cons_of_mem _ (own p mem).1, (own p mem).2⟩
    by_cases two : part = ['.', '.']
    · have shorter : ∃ n, (if out = [] ∨ out = [[]] then out else out.dropLast) = out.take n := by
        split
        · exact ⟨out.length, (List.take_length).symm⟩
        · exact ⟨out.length - 1, List.dropLast_eq_take⟩
      obtain ⟨n, back⟩ := shorter
      obtain ⟨k, new, left, own⟩ := ih (out.take n)
      refine ⟨min k n, new, ?_, fun p mem => ?_⟩
      · simp [dropDots, two, back, left, List.take_take]
      · exact ⟨List.mem_cons_of_mem _ (own p mem).1, (own p mem).2⟩
    · obtain ⟨k, new, left, own⟩ := ih (out ++ [part])
      refine ⟨k, [part].take (k - out.length) ++ new, ?_, ?_⟩
      · simp [dropDots, one, two, left, List.take_append, List.append_assoc]
      · intro p mem
        rcases List.mem_append.mp mem with mem | mem
        · obtain rfl := List.mem_singleton.mp (List.mem_of_mem_take mem)
          exact ⟨List.mem_cons_self, not_or.mpr ⟨one, two⟩⟩
        · exact ⟨List.mem_cons_of_mem _ (own p mem).1, (own p mem).2⟩

theorem mem_of_mem_dropDots {part : List Char} (mem : part ∈ dropDots out parts) :
    part ∈ out ∨ part ∈ parts := by
  obtain ⟨k, new, left, own⟩ := dropDots_cases out parts
  rw [left] at mem
  rcases List.mem_append.mp mem with mem | mem
  · exact .inl (List.mem_of_mem_take mem)
  · exact .inr (own part mem).1

/-- When there are more segments than before, the last one is new. -/
theorem last_of_dropDots {front : List (List Char)} {last : List Char}
    (left : dropDots out parts = front ++ [last]) (longer : out.length ≤ front.length) :
    last ∈ parts ∧ ¬ IsDots last := by
  obtain ⟨k, new, shape, own⟩ := dropDots_cases out parts
  rw [left] at shape
  rcases List.eq_nil_or_concat new with rfl | ⟨init, own_last, e⟩
  · have lengths := congrArg List.length shape
    simp at lengths
    omega
  · rw [e, List.concat_eq_append, ← List.append_assoc] at shape
    have same : last = own_last := (List.append_inj_right' shape rfl) |> List.singleton_inj.mp
    exact own last (by simp [e, same])

theorem flatMap_intercalate {sep : Char} {write : Char → List Char} (own : write sep = [sep])
    (parts : List (List Char)) :
    ([sep].intercalate parts).flatMap write = [sep].intercalate (parts.map (·.flatMap write)) := by
  induction parts with
  | nil => rfl
  | cons first parts ih =>
    cases parts with
    | nil => simp
    | cons next parts =>
      simp only [List.map_cons] at ih ⊢
      simp only [List.intercalate_cons_cons, List.flatMap_append, ih, List.flatMap_singleton, own]

/-- When a path with a text behind it is written with one segment more than the path alone, then
that segment writes a part of the text. -/
theorem segment_of_normalPath {write : Char → List Char} {cs name segment : List Char}
    (rooted : Stops (· = '/') cs) (own : write '/' = ['/'])
    (clean : ∀ c, c ≠ '/' → '/' ∉ write c) (whole : '/' ∉ segment)
    (longer : (normalPath (cs ++ '/' :: name)).flatMap write =
      (normalPath cs).flatMap write ++ '/' :: segment) :
    ∃ part ∈ Ip.splitAt '/' name, ¬ IsDots part ∧ segment = part.flatMap write := by
  obtain ⟨more, left⟩ := dropDots_of_rooted rooted
  obtain ⟨all, left_all⟩ := dropDots_rooted more (Ip.splitAt '/' name)
  have spared : ∀ part : List Char, '/' ∉ part → '/' ∉ part.flatMap write := by
    intro part apart mem
    obtain ⟨c, mem_c, mem⟩ := List.mem_flatMap.mp mem
    exact clean c (fun e => apart (e ▸ mem_c)) mem
  have apart_old : ∀ part ∈ [] :: more, '/' ∉ part := by
    intro part mem
    rw [← left] at mem
    rcases mem_of_mem_dropDots mem with mem | mem
    · cases mem
    · exact Ip.not_mem_of_mem_splitAt mem
  have apart_new : ∀ part ∈ [] :: all, '/' ∉ part := by
    intro part mem
    rw [← left_all] at mem
    rcases mem_of_mem_dropDots mem with mem | mem
    · exact apart_old part mem
    · exact Ip.not_mem_of_mem_splitAt mem
  have written : ['/'].intercalate (([] :: all).map (·.flatMap write)) =
      ['/'].intercalate (([] :: more).map (·.flatMap write) ++ [segment]) := by
    rw [intercalate_concat (by simp), ← flatMap_intercalate own, ← flatMap_intercalate own,
      ← left, ← left_all, ← left, ← dropDots_append, ← Ip.splitAt_append_sep, ← normalPath_eq,
      ← normalPath_eq, longer]
  have apart_written : ∀ {parts : List (List Char)}, (∀ part ∈ parts, '/' ∉ part) →
      ∀ part ∈ parts.map (·.flatMap write), '/' ∉ part := by
    intro parts apart part mem
    obtain ⟨plain, mem_plain, rfl⟩ := List.mem_map.mp mem
    exact spared plain (apart plain mem_plain)
  have apart_both : ∀ part ∈ ([] :: more).map (·.flatMap write) ++ [segment], '/' ∉ part := by
    intro part mem
    rcases List.mem_append.mp mem with mem | mem
    · exact apart_written apart_old part mem
    · exact List.mem_singleton.mp mem ▸ whole
  have same := congrArg (Ip.splitAt '/') written
  rw [Ip.splitAt_intercalate (apart_written apart_new) (by simp),
    Ip.splitAt_intercalate apart_both (by simp)] at same
  obtain ⟨front, back, e, kept, last⟩ := List.map_eq_append_iff.mp same
  obtain ⟨part, rest, rfl, writes, nothing⟩ := List.map_eq_cons_iff.mp last
  obtain rfl := List.map_eq_nil_iff.mp nothing
  have count : ([] :: more).length ≤ front.length := by
    have lengths := congrArg List.length kept
    rw [List.length_map, List.length_map] at lengths
    omega
  obtain ⟨mem, plain⟩ := last_of_dropDots (left_all.trans e) count
  exact ⟨part, mem, plain, writes.symm⟩

/-! ## A path behind a URL -/

/-- The pieces with a path behind theirs. -/
def Spelling.extended (p : Spelling) (more : List Char) : Spelling :=
  { p with path := p.path ++ more }

theorem text_extended {p : Spelling} (query : p.query = none) (fragment : p.fragment = none)
    (more : List Char) : (p.extended more).text = p.text ++ more := by
  simp [Spelling.text, Spelling.tail, Spelling.extended, query, fragment, marked]

theorem absolute_extended {p : Spelling} (absolute : p.Absolute) {more : List Char}
    (rooted : Stops (· = '/') more) (plain : ∀ c ∈ more, endsPath c = false) :
    (p.extended more).Absolute where
  letter := absolute.letter
  scheme := absolute.scheme
  authority := absolute.authority
  path c mem := (List.mem_append.mp mem).elim (absolute.path c) (plain c)
  rooted := absolute.rooted.append rooted
  query := absolute.query

/-- A path that is written behind a URL goes into the path, before dot segments are dropped, and
changes nothing else. -/
theorem read_append {base : String} {u v : Url} (more : String) (own : read base = .ok u)
    (scheme : u.scheme ≠ "") (host : u.host ≠ "") (query : u.query = none)
    (fragment : u.fragment = none) (rooted : Stops (· = '/') more.toList)
    (plain : ∀ c ∈ more.toList, endsPath c = false) (whole : read (base ++ more) = .ok v) :
    ∃ path, Stops (· = '/') path ∧
      u.path = Percent.encode inPath (String.ofList (normalPath path)) ∧
      v = { u with
        path := Percent.encode inPath (String.ofList (normalPath (path ++ more.toList))) } := by
  obtain ⟨absolute, text⟩ := absolute_of_read own scheme host
  obtain ⟨-, spells⟩ := read_eq_ok_iff.mp own
  generalize spelling base.toList = p at *
  have no_query : p.query = none := by simpa [query] using spells.query.symm
  have no_fragment : p.fragment = none := by simpa [fragment] using spells.fragment.symm
  have longer := absolute_extended absolute rooted plain
  have spelled : spelling (base ++ more).toList = p.extended more.toList := by
    rw [String.toList_append, ← text, ← text_extended no_query no_fragment, spelling_text longer]
  obtain ⟨-, extended⟩ := read_eq_ok_iff.mp whole
  rw [spelled] at extended
  refine ⟨p.path, absolute.rooted, spells.path_of_absolute absolute, ?_⟩
  have same_host : u.host = v.host := Except.ok.inj (spells.host.symm.trans extended.host)
  have same_port : u.port = v.port := Except.ok.inj (spells.port.symm.trans extended.port)
  have path := extended.path_of_absolute longer
  calc v = ⟨v.scheme, v.userInfo, v.host, v.port, v.path, v.query, v.fragment⟩ := rfl
    _ = { u with path := v.path } := by
      rw [extended.scheme, extended.userInfo, extended.query, extended.fragment, ← same_host,
        ← same_port]
      simp [Spelling.extended, spells.scheme, spells.userInfo, spells.query, spells.fragment]
    _ = _ := by rw [path]; rfl

/-- A text that spells a URL without query and fragment has no marks of them. -/
theorem not_endsPath_of_read {text : String} {u : Url} (own : read text = .ok u)
    (scheme : u.scheme ≠ "") (host : u.host ≠ "") (query : u.query = none)
    (fragment : u.fragment = none) : ∀ c ∈ text.toList, endsPath c = false := by
  obtain ⟨absolute, spelled⟩ := absolute_of_read own scheme host
  obtain ⟨-, spells⟩ := read_eq_ok_iff.mp own
  generalize spelling text.toList = p at *
  have no_query : p.query = none := by simpa [query] using spells.query.symm
  have no_fragment : p.fragment = none := by simpa [fragment] using spells.fragment.symm
  intro c mem
  rw [← spelled] at mem
  simp only [Spelling.text, Spelling.tail, no_query, no_fragment, marked, List.append_nil,
    List.mem_append, List.mem_cons] at mem
  by_contra ends
  simp only [endsPath, Bool.not_eq_false, Bool.or_eq_true, decide_eq_true_eq] at ends
  rcases mem with mem | rfl | rfl | rfl | mem | mem
  · rcases ends with rfl | rfl <;> exact absurd (absolute.scheme _ mem) (by decide)
  · rcases ends with e | e <;> cases e
  · rcases ends with e | e <;> cases e
  · rcases ends with e | e <;> cases e
  · rcases ends with rfl | rfl <;> exact absurd (absolute.authority _ mem) (by decide)
  · rcases ends with rfl | rfl <;> exact absurd (absolute.path _ mem) (by decide)

end IndexExplorer.Url
