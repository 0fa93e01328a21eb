import IndexExplorer.Proofs.Text.Split
import IndexExplorer.Url.Basic
import Mathlib.Data.List.TakeWhile

/-!
How a text spells a URL.

Marks divide a text into pieces, and each part of the URL is read from a piece of its own.

* `read_eq_ok_iff`: what it takes to read a URL from the pieces of a text;
* `spelling_text`, `text_spelling`: pieces that are put together with their marks between them are
  found again, and the pieces of an absolute text make up that text;
* `absolute_of_read`: a text that spells a URL with a scheme and a host is absolute.
-/
namespace IndexExplorer

namespace UrlParts

variable {p : Char → Bool} {sep : Char} {cs rest : List Char}

/-- The text is empty, or begins with a character on which `p` holds. -/
def Stops (p : Char → Bool) (cs : List Char) : Prop := ∀ c, cs.head? = some c → p c = true

theorem Stops.append (first : Stops p cs) (behind : Stops p rest) : Stops p (cs ++ rest) := by
  cases cs with
  | nil => exact behind
  | cons c cs => exact first

theorem stops_cons {c : Char} (holds : p c = true) (cs : List Char) : Stops p (c :: cs) := by
  intro d head
  rwa [← Option.some.inj head]

theorem before_append_of_stops (front : ∀ c ∈ cs, p c = false) (stops : Stops p rest) :
    before p (cs ++ rest) = (cs, rest) := by
  have kept : ∀ c ∈ cs, (!p c) = true := fun c mem => by simp [front c mem]
  have nothing : rest.takeWhile (!p ·) = [] ∧ rest.dropWhile (!p ·) = rest := by
    cases rest with
    | nil => exact ⟨rfl, rfl⟩
    | cons c rest => simp [stops c rfl]
  simp [before, List.takeWhile_append_of_pos kept, List.dropWhile_append_of_pos kept, nothing]

theorem before_of_forall (h : ∀ c ∈ cs, p c = false) : before p cs = (cs, []) := by
  have all : before p (cs ++ []) = (cs, []) := before_append_of_stops h nofun
  rwa [List.append_nil] at all

theorem not_of_mem_before {c : Char} (mem : c ∈ (before p cs).1) : p c = false := by
  simpa using List.mem_takeWhile_imp mem

theorem stops_before (p : Char → Bool) (cs : List Char) : Stops p (before p cs).2 := by
  intro c head
  have first := List.head?_dropWhile_not (!p ·) cs
  rw [show cs.dropWhile (!p ·) = (before p cs).2 from rfl, head] at first
  simpa using first

theorem eq_false_of_notMem (h : sep ∉ cs) : ∀ c ∈ cs, decide (c = sep) = false := by
  rintro c mem
  exact decide_eq_false fun e => h (e ▸ mem)

theorem cutAt_of_notMem (h : sep ∉ cs) : cutAt sep cs = (cs, []) := by
  simp [cutAt, before_of_forall (eq_false_of_notMem h)]

theorem cutAt_append (h : sep ∉ cs) (rest : List Char) :
    cutAt sep (cs ++ sep :: rest) = (cs, rest) := by
  have stops : Stops (· = sep) (sep :: rest) := by
    intro c head
    simpa using (Option.some.inj head).symm
  simp [cutAt, before_append_of_stops (eq_false_of_notMem h) stops]

/-! ## Behind the last separator -/

theorem takeWhile_reverse_append (h : sep ∉ cs) (front : List Char) :
    (cs.reverse ++ front).takeWhile (· ≠ sep) = cs.reverse ++ front.takeWhile (· ≠ sep) := by
  refine List.takeWhile_append_of_pos fun c mem => ?_
  simp [eq_false_of_notMem h c (List.mem_reverse.mp mem)]

theorem afterLast_append (h : sep ∉ cs) (front : List Char) :
    afterLast sep (front ++ sep :: cs) = cs := by
  have e : (front ++ sep :: cs).reverse = cs.reverse ++ sep :: front.reverse := by simp
  rw [afterLast, e, takeWhile_reverse_append h]
  simp

theorem afterLast_of_notMem (h : sep ∉ cs) : afterLast sep cs = cs := by
  have all := takeWhile_reverse_append h []
  rw [List.append_nil, List.takeWhile_nil, List.append_nil] at all
  rw [afterLast, all, List.reverse_reverse]

theorem notMem_afterLast (sep : Char) (cs : List Char) : sep ∉ afterLast sep cs := by
  intro mem
  have other := List.mem_takeWhile_imp (List.mem_reverse.mp mem)
  simp at other

theorem afterLast_suffix (sep : Char) (cs : List Char) : afterLast sep cs <:+ cs := by
  have front : cs.reverse.takeWhile (· ≠ sep) <+: cs.reverse := List.takeWhile_prefix _
  simpa [afterLast] using List.reverse_suffix.mpr front

end UrlParts

namespace Url

open Text UrlParts

/-! ## Pieces -/

/-- The pieces of a text, as they stand between its marks. -/
structure Spelling where
  scheme : List Char
  authority : List Char
  path : List Char
  query : Option (List Char)
  fragment : Option (List Char)

/-- A character that ends an authority. -/
def endsAuthority (c : Char) : Bool := c = '/' || c = '?' || c = '#'

/-- A character that ends a path. -/
def endsPath (c : Char) : Bool := c = '?' || c = '#'

/-- The authority behind two slashes, if there are any, and the rest. -/
def takeAuthority (cs : List Char) : List Char × List Char :=
  match cs with
  | '/' :: '/' :: after => before endsAuthority after
  | _ => ([], cs)

/-- The pieces of a text. -/
def spelling (cs : List Char) : Spelling :=
  let (scheme, rest) := takeScheme cs
  let (authority, rest) := takeAuthority rest
  let (path, rest) := before endsPath rest
  let (query, rest) := takeMarked '?' (· = '#') rest
  let (fragment, _) := takeMarked '#' (fun _ => false) rest
  { scheme, authority, path, query, fragment }

/-- The host of an authority as it is written. -/
def hostText (authority : List Char) : List Char := (takeHost (takeUserInfo authority).2).1

/-- The port of an authority as it is written. -/
def portText (authority : List Char) : List Char :=
  let rest := (takeHost (takeUserInfo authority).2).2
  if rest.head? = some ':' then rest.drop 1 else rest

/-- Each part of a URL is what its own piece spells. -/
structure Spells (p : Spelling) (u : Url) : Prop where
  scheme : u.scheme = String.ofList (p.scheme.map Char.toLower)
  userInfo :
    u.userInfo = Percent.encode inUserInfo (String.ofList (takeUserInfo p.authority).1)
  host : hostOf (hostText p.authority) = .ok u.host
  port : portOf (String.ofList p.scheme) (portText p.authority) = .ok u.port
  place : pathFault? (!p.scheme.isEmpty) u.hasAuthority p.path = none
  path : u.path = Percent.encode inPath
    (String.ofList (if !p.scheme.isEmpty || u.hasAuthority then normalPath p.path else p.path))
  query : u.query = p.query.map fun q => Percent.encode inQuery (String.ofList q)
  fragment : u.fragment = p.fragment.map fun f => Percent.encode inFragment (String.ofList f)

/-- The URL that pieces spell. -/
def ofSpelling (p : Spelling) : Except UrlFault Url := do
  let user := Percent.encode inUserInfo (String.ofList (takeUserInfo p.authority).1)
  let host ← hostOf (hostText p.authority)
  let port ← portOf (String.ofList p.scheme) (portText p.authority)
  let hasScheme := !p.scheme.isEmpty
  let hasAuthority := !user.isEmpty || !host.isEmpty || port.isSome
  match pathFault? hasScheme hasAuthority p.path with
  | some fault => .error fault
  | none => .ok {
      scheme := String.ofList (p.scheme.map Char.toLower)
      userInfo := user
      host
      port
      path := Percent.encode inPath
        (String.ofList (if hasScheme || hasAuthority then normalPath p.path else p.path))
      query := p.query.map fun q => Percent.encode inQuery (String.ofList q)
      fragment := p.fragment.map fun f => Percent.encode inFragment (String.ofList f) }

theorem takeAuthority_of_bare {cs : List Char} (bare : ∀ after, cs ≠ '/' :: '/' :: after) :
    takeAuthority cs = ([], cs) := by
  unfold takeAuthority
  split
  · exact absurd rfl (bare _)
  · rfl

theorem read_eq (text : String) :
    read text = match textFault? text.toList with
      | some fault => .error fault
      | none => ofSpelling (spelling text.toList) := by
  have authority : (fun c : Char => decide (c = '/') || decide (c = '?') || decide (c = '#')) =
    endsAuthority := rfl
  have path : (fun c : Char => decide (c = '?') || decide (c = '#')) = endsPath := rfl
  simp only [read, spelling, authority, path]
  cases textFault? text.toList with
  | some fault => rfl
  | none =>
    generalize takeScheme text.toList = taken
    obtain ⟨scheme, rest⟩ := taken
    dsimp only
    split
    · rename_i after
      simp only [takeAuthority]
      generalize before endsAuthority after = taken
      simp only [ofSpelling, hostText, portText]
      refine bind_congr fun host => bind_congr fun port => ?_
      generalize pathFault? _ _ _ = fault
      cases fault <;> rfl
    · rename_i bare
      simp only [takeAuthority_of_bare bare, ofSpelling, hostText, portText]
      refine bind_congr fun host => bind_congr fun port => ?_
      generalize pathFault? _ _ _ = fault
      cases fault <;> rfl

theorem ofSpelling_eq_ok_iff {p : Spelling} {u : Url} : ofSpelling p = .ok u ↔ Spells p u := by
  constructor
  · intro h
    simp only [ofSpelling, bind, Except.bind] at h
    split at h
    · cases h
    · rename_i host host_read
      split at h
      · cases h
      · rename_i port port_read
        split at h
        · cases h
        · rename_i place
          cases h
          exact ⟨rfl, rfl, host_read, port_read, place, rfl, rfl, rfl⟩
  · rintro ⟨scheme, userInfo, host, port, place, path, query, fragment⟩
    have url : u = ⟨u.scheme, u.userInfo, u.host, u.port, u.path, u.query, u.fragment⟩ := rfl
    simp only [hasAuthority, userInfo] at place path
    rw [url, scheme, userInfo, path, query, fragment]
    simp only [ofSpelling, host, port, place, bind, Except.bind]

/-- A text can be read when it holds no control and its pieces can be read. -/
theorem read_eq_ok_iff {text : String} {u : Url} :
    read text = .ok u ↔ textFault? text.toList = none ∧ Spells (spelling text.toList) u := by
  rw [read_eq, ← ofSpelling_eq_ok_iff]
  cases textFault? text.toList <;> simp

/-! ## Absolute texts -/

/-- A piece behind its mark, if there is one. -/
def marked (mark : Char) : Option (List Char) → List Char
  | none => []
  | some cs => mark :: cs

namespace Spelling

/-- What follows the authority. -/
def tail (p : Spelling) : List Char := p.path ++ marked '?' p.query ++ marked '#' p.fragment

/-- The pieces with their marks between them, an authority among them. -/
def text (p : Spelling) : List Char := p.scheme ++ ':' :: '/' :: '/' :: (p.authority ++ p.tail)

/-- There is a scheme, and no piece has a mark in it that would end it. -/
structure Absolute (p : Spelling) : Prop where
  letter : ∃ c, p.scheme.head? = some c ∧ c.isAlpha
  scheme : ∀ c ∈ p.scheme, isSchemeChar c
  authority : ∀ c ∈ p.authority, endsAuthority c = false
  path : ∀ c ∈ p.path, endsPath c = false
  rooted : Stops (· = '/') p.path
  query : ∀ q, p.query = some q → '#' ∉ q

end Spelling

theorem takeMarked_marked {mark : Char} {stop : Char → Bool} {part : Option (List Char)}
    {rest : List Char} (inside : ∀ cs, part = some cs → ∀ c ∈ cs, stop c = false)
    (stops : Stops stop rest) (other : rest.head? ≠ some mark) :
    takeMarked mark stop (marked mark part ++ rest) = (part, rest) := by
  cases part with
  | some cs => simp [takeMarked, marked, before_append_of_stops (inside cs rfl) stops]
  | none =>
    cases rest with
    | nil => rfl
    | cons c rest =>
      have ne : c ≠ mark := fun e => other (e ▸ rfl)
      simp [takeMarked, marked, ne]

theorem marked_takeMarked (mark : Char) (stop : Char → Bool) (cs : List Char) :
    marked mark (takeMarked mark stop cs).1 ++ (takeMarked mark stop cs).2 = cs := by
  cases cs with
  | nil => rfl
  | cons c cs =>
    by_cases h : c = mark
    · simp [takeMarked, h, marked, before_append]
    · simp [takeMarked, h, marked]

theorem takeScheme_text {p : Spelling} (h : p.Absolute) :
    takeScheme p.text = (p.scheme, '/' :: '/' :: (p.authority ++ p.tail)) := by
  obtain ⟨c, head, letter⟩ := h.letter
  have plain : ∀ c ∈ p.scheme, (!isSchemeChar c) = false := fun c mem => by simp [h.scheme c mem]
  have stops : Stops (!isSchemeChar ·) (':' :: '/' :: '/' :: (p.authority ++ p.tail)) := by
    intro c head
    obtain rfl : ':' = c := Option.some.inj head
    decide
  have cut := before_append_of_stops plain stops
  rw [takeScheme, Spelling.text, cut]
  cases scheme : p.scheme with
  | nil => simp [scheme] at head
  | cons d rest =>
    obtain rfl : d = c := by simpa [scheme] using head
    simp [letter]

theorem stops_tail {p : Spelling} (h : p.Absolute) : Stops endsAuthority p.tail := by
  intro c head
  cases path : p.path with
  | cons d rest =>
    have slash : d = '/' := by simpa using h.rooted d (by rw [path]; rfl)
    simp [Spelling.tail, path] at head
    simp [endsAuthority, ← head, slash]
  | nil =>
    cases query : p.query <;> cases fragment : p.fragment <;>
      simp [Spelling.tail, path, query, fragment, marked] at head <;> simp [endsAuthority, ← head]

/-- Pieces that are put together are found again. -/
theorem spelling_text {p : Spelling} (h : p.Absolute) : spelling p.text = p := by
  have authority : before endsAuthority (p.authority ++ p.tail) = (p.authority, p.tail) :=
    before_append_of_stops h.authority (stops_tail h)
  have fragment_stops : Stops (· = '#') (marked '#' p.fragment) := by
    intro c head
    cases fragment : p.fragment <;> simp [fragment, marked] at head
    simp [← head]
  have path : before endsPath p.tail =
      (p.path, marked '?' p.query ++ marked '#' p.fragment) := by
    rw [Spelling.tail, List.append_assoc]
    refine before_append_of_stops h.path ?_
    intro c head
    cases query : p.query with
    | some q =>
      simp [query, marked] at head
      simp [endsPath, ← head]
    | none =>
      rw [query] at head
      have mark := fragment_stops c head
      simp only [decide_eq_true_eq] at mark
      simp [endsPath, mark]
  have query : takeMarked '?' (· = '#') (marked '?' p.query ++ marked '#' p.fragment) =
      (p.query, marked '#' p.fragment) := by
    refine takeMarked_marked ?_ fragment_stops ?_
    · intro q some
      exact eq_false_of_notMem (h.query q some)
    · cases p.fragment <;> simp [marked]
  have fragment : takeMarked '#' (fun _ => false) (marked '#' p.fragment) = (p.fragment, []) := by
    have last : takeMarked '#' (fun _ => false) (marked '#' p.fragment ++ []) = (p.fragment, []) :=
      takeMarked_marked (fun _ _ _ _ => rfl) nofun nofun
    rwa [List.append_nil] at last
  simp only [spelling, takeScheme_text h, takeAuthority, authority, path, query, fragment]

theorem takeScheme_of_ne_nil {cs : List Char} (named : (takeScheme cs).1 ≠ []) :
    (∃ c, (takeScheme cs).1.head? = some c ∧ c.isAlpha) ∧
      (∀ c ∈ (takeScheme cs).1, isSchemeChar c) ∧
      cs = (takeScheme cs).1 ++ ':' :: (takeScheme cs).2 := by
  have whole := before_append (!isSchemeChar ·) cs
  have chars : ∀ c ∈ (before (!isSchemeChar ·) cs).1, isSchemeChar c = true := fun c mem => by
    simpa using not_of_mem_before mem
  rw [takeScheme] at named ⊢
  generalize before (!isSchemeChar ·) cs = cut at *
  obtain ⟨name, rest⟩ := cut
  dsimp only at *
  split at named
  · cases name with
    | nil => exact absurd rfl named
    | cons c tail =>
      by_cases letter : c.isAlpha
      · simp only [letter, ↓reduceIte]
        exact ⟨⟨c, rfl, letter⟩, chars, whole.symm⟩
      · simp [letter] at named
  · exact absurd rfl named

theorem takeAuthority_of_ne_nil {cs : List Char} (some : (takeAuthority cs).1 ≠ []) :
    cs = '/' :: '/' :: ((takeAuthority cs).1 ++ (takeAuthority cs).2) ∧
      (∀ c ∈ (takeAuthority cs).1, endsAuthority c = false) ∧
      Stops endsAuthority (takeAuthority cs).2 := by
  by_cases slashes : ∃ after, cs = '/' :: '/' :: after
  · obtain ⟨after, rfl⟩ := slashes
    refine ⟨?_, fun c mem => not_of_mem_before mem, stops_before endsAuthority after⟩
    simp only [takeAuthority, before_append]
  · rw [takeAuthority_of_bare fun after e => slashes ⟨after, e⟩] at some
    exact absurd rfl some

theorem takeMarked_query {cs : List Char} {q : List Char}
    (some : (takeMarked '?' (· = '#') cs).1 = some q) : '#' ∉ q := by
  cases cs with
  | nil => cases some
  | cons c cs =>
    by_cases mark : c = '?'
    · simp only [takeMarked, mark, ↓reduceIte, Option.some.injEq] at some
      intro mem
      rw [← some] at mem
      simpa using not_of_mem_before mem
    · simp [takeMarked, mark] at some

theorem stops_takeMarked {cs : List Char} (stops : Stops endsPath cs) :
    Stops (· = '#') (takeMarked '?' (· = '#') cs).2 := by
  cases cs with
  | nil => exact nofun
  | cons c cs =>
    by_cases mark : c = '?'
    · simp only [takeMarked, mark, ↓reduceIte]
      exact stops_before _ cs
    · simp only [takeMarked, mark, ↓reduceIte]
      intro d head
      have ends := stops d head
      obtain rfl : c = d := Option.some.inj head
      simpa [endsPath, mark] using ends

theorem marked_fragment {cs : List Char} (stops : Stops (· = '#') cs) :
    marked '#' (takeMarked '#' (fun _ => false) cs).1 = cs := by
  cases cs with
  | nil => rfl
  | cons c cs =>
    have mark : c = '#' := by simpa using stops c rfl
    have all : before (fun _ => false) cs = (cs, []) := before_of_forall fun _ _ => rfl
    simp [takeMarked, mark, all, marked]

/-- A text with a scheme and an authority is made up of its pieces. -/
theorem text_spelling {cs : List Char} (scheme : (spelling cs).scheme ≠ [])
    (authority : (spelling cs).authority ≠ []) :
    (spelling cs).Absolute ∧ (spelling cs).text = cs := by
  obtain ⟨letter, chars, name⟩ := takeScheme_of_ne_nil scheme
  have behind : (takeAuthority (takeScheme cs).2).1 ≠ [] := authority
  obtain ⟨slashes, inside, stops⟩ := takeAuthority_of_ne_nil behind
  let rest := (takeAuthority (takeScheme cs).2).2
  have rest_eq : (before endsPath rest).1 ++ (before endsPath rest).2 = rest :=
    before_append endsPath rest
  constructor
  · refine ⟨letter, chars, inside, fun c mem => not_of_mem_before mem, ?_,
      fun q => takeMarked_query⟩
    intro c head
    have mem : c ∈ (before endsPath rest).1 := List.mem_of_head? head
    have goes_on : endsPath c = false := not_of_mem_before mem
    have first : rest.head? = some c := by
      rw [← rest_eq, List.head?_append, show (before endsPath rest).1.head? = some c from head]
      rfl
    have ends : endsAuthority c = true := stops c first
    simp only [endsPath, Bool.or_eq_false_iff] at goes_on
    simpa [endsAuthority, goes_on] using ends
  · have query := marked_takeMarked '?' (· = '#') (before endsPath rest).2
    have fragment := marked_fragment (stops_takeMarked (stops_before endsPath rest))
    have tail : (spelling cs).tail = rest := by
      calc (spelling cs).tail
          = (before endsPath rest).1 ++
              (marked '?' (takeMarked '?' (· = '#') (before endsPath rest).2).1 ++
              marked '#' (takeMarked '#' (fun _ => false)
                (takeMarked '?' (· = '#') (before endsPath rest).2).2).1) := List.append_assoc ..
        _ = rest := by rw [fragment, query, rest_eq]
    calc (spelling cs).text
        = (takeScheme cs).1 ++ ':' :: '/' :: '/' :: ((takeAuthority (takeScheme cs).2).1 ++
            (spelling cs).tail) := rfl
      _ = cs := by rw [tail, ← slashes, ← name]

/-- A text that can be read has no controls. -/
theorem not_isControl_of_textFault {cs : List Char} (fine : textFault? cs = none) :
    ∀ c ∈ cs, isControl c = false := by
  unfold textFault? at fine
  split at fine
  · cases fine
  · split at fine
    · cases fine
    · rename_i none
      intro c mem
      have all : ∀ c ∈ cs, (!isControl c) = true := List.dropWhile_eq_nil_iff.mp none
      simpa using all c mem

/-- The path of an absolute text is read without its dot segments. -/
theorem Spells.path_of_absolute {p : Spelling} {u : Url} (spells : Spells p u)
    (absolute : p.Absolute) :
    u.path = Percent.encode inPath (String.ofList (normalPath p.path)) := by
  obtain ⟨c, head, -⟩ := absolute.letter
  have schemed : p.scheme.isEmpty = false := by
    cases scheme : p.scheme with
    | nil => simp [scheme] at head
    | cons d rest => rfl
  rw [spells.path, schemed]
  rfl

/-- The pieces of a text that spells a URL with a scheme and a host. -/
theorem absolute_of_read {text : String} {u : Url} (h : read text = .ok u)
    (scheme : u.scheme ≠ "") (host : u.host ≠ "") :
    (spelling text.toList).Absolute ∧ (spelling text.toList).text = text.toList := by
  obtain ⟨-, spells⟩ := read_eq_ok_iff.mp h
  refine text_spelling ?_ ?_
  · intro none
    rw [spells.scheme, none] at scheme
    exact scheme rfl
  · intro none
    have empty := spells.host
    rw [none] at empty
    exact host (Except.ok.inj empty).symm

end Url

end IndexExplorer
