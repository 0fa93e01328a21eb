import IndexExplorer.Proofs.Url.Parts

/-!
A URL whose text is taken apart and put together again.

Taking a text apart writes the scheme in lower case, loses whether an empty query had its mark, and
leaves the fragment behind; an empty path becomes the root.

* `Rejoined`: how the URL that is read from the new text differs from the one of the old text;
* `read_rejoined`: it does not differ in anything else;
* `split_of_spells`: the text of a URL that was read comes apart again, as when it is signed.
-/
namespace IndexExplorer.Url

open Text UrlParts

/-- The pieces of a text that is put together from the parts of another. -/
def Spelling.rejoined (p : Spelling) : Spelling where
  scheme := p.scheme.map Char.toLower
  authority := p.authority
  path := if p.path.isEmpty then ['/'] else p.path
  query := p.query.filter (!·.isEmpty)
  fragment := none

/-- The path that is asked for: the root, when none is written. -/
def target (u : Url) : String := if u.path.isEmpty then "/" else u.path

/-- The URL `v` is `u` after its text was put together again. The port that the scheme stands for
goes, which is read where a scheme is written with capitals. -/
structure Rejoined (u v : Url) : Prop where
  scheme : v.scheme = u.scheme
  userInfo : v.userInfo = u.userInfo
  host : v.host = u.host
  port : v.port = u.port.filter fun n => defaultPort? u.scheme ≠ some n
  target : v.target = u.target
  query : v.query = u.query.filter (!·.isEmpty)
  fragment : v.fragment = none

/-! ## The old text -/

/-- A printable ASCII character that is no space. -/
def isVisible (c : Char) : Bool := 0x20 < c.toNat && c.toNat < 0x7f

theorem not_isControl_of_isVisible {c : Char} (visible : isVisible c) : isControl c = false := by
  simp only [isVisible, Bool.and_eq_true, decide_eq_true_eq] at visible
  simp only [isControl, Bool.or_eq_false_iff, decide_eq_false_iff_not]
  omega

theorem isBlank_of_isVisible {c : Char} (visible : isVisible c) : isBlank c = false := by
  have all : ∀ n : Fin 0x80, isVisible (Char.ofNat n.val) = true →
      isBlank (Char.ofNat n.val) = false := by decide
  have ascii : c.toNat < 0x80 := by
    simp only [isVisible, Bool.and_eq_true, decide_eq_true_eq] at visible
    omega
  exact forall_ascii (p := fun c => isVisible c = true → isBlank c = false) all ascii visible

/-- Both readers find the same scheme. -/
theorem takeScheme_of_parts (cs : List Char) (named : (UrlParts.takeScheme cs).1 ≠ []) :
    (takeScheme cs).1 ≠ [] ∧ (takeScheme cs).2 = (UrlParts.takeScheme cs).2 := by
  have whole := before_append (· = ':') cs
  have stops := stops_before (· = ':') cs
  rw [UrlParts.takeScheme] at named ⊢
  generalize before (· = ':') cs = cut at *
  obtain ⟨name, rest⟩ := cut
  dsimp only at *
  split at named
  · rename_i c tail colon after
    by_cases scheme : (c.isAlpha && (c :: tail).all isSchemeChar) = true
    · obtain rfl : colon = ':' := by simpa using stops colon rfl
      have chars : ∀ d ∈ c :: tail, (!isSchemeChar d) = false := by
        simp only [Bool.and_eq_true, List.all_eq_true] at scheme
        exact fun d mem => by simp [scheme.2 d mem]
      have ends : Stops (!isSchemeChar ·) (':' :: after) := stops_cons rfl after
      have letter : c.isAlpha := (Bool.and_eq_true .. ▸ scheme).1
      rw [takeScheme, ← whole, before_append_of_stops chars ends, if_pos scheme]
      simp [letter]
    · rw [if_neg scheme] at named
      exact absurd rfl named
  · exact absurd rfl named

/-- A text that comes apart with a scheme and an authority has both for the other reader too. -/
theorem named_of_split {text : String} {parts : UrlParts}
    (visible : ∀ c ∈ text.toList, isVisible c) (apart : split text = .ok parts)
    (scheme : parts.scheme ≠ "") (authority : parts.authority ≠ "") :
    (spelling text.toList).scheme ≠ [] ∧ (spelling text.toList).authority ≠ [] := by
  have front : text.toList.dropWhile (·.toNat ≤ 0x20) = text.toList := by
    refine (trimWhile_of_forall fun c mem => ?_).1
    have seen := visible c mem
    simp only [isVisible, Bool.and_eq_true, decide_eq_true_eq] at seen
    simpa using seen.1
  have kept := filter_of_printable fun c mem => not_isControl_of_isVisible (visible c mem)
  simp only [split, front, kept] at apart
  have schemes := takeScheme_of_parts text.toList
  have placed : (spelling text.toList).authority =
    (takeAuthority (takeScheme text.toList).2).1 := rfl
  have same : (spelling text.toList).scheme = (takeScheme text.toList).1 := rfl
  generalize UrlParts.takeScheme text.toList = taken at *
  obtain ⟨name, rest⟩ := taken
  dsimp only at apart schemes
  split at apart
  · cases apart
  · obtain rfl := Except.ok.inj apart
    have own : name ≠ [] := by simpa using scheme
    obtain ⟨found, rest_eq⟩ := schemes own
    refine ⟨same ▸ found, fun none => authority ?_⟩
    have nobody : (takeAuthority rest).1 = [] := by rw [← rest_eq, ← placed, none]
    exact congrArg String.ofList nobody

/-- A text without blanks and controls that comes apart with a scheme and an authority is absolute,
and the parts are its pieces. -/
theorem absolute_of_split {text : String} {parts : UrlParts}
    (visible : ∀ c ∈ text.toList, isVisible c) (apart : split text = .ok parts)
    (scheme : parts.scheme ≠ "") (authority : parts.authority ≠ "") :
    let p := spelling text.toList
    p.Absolute ∧ p.text = text.toList ∧ authorityFault p.authority = none ∧
      parts = ⟨String.ofList (p.scheme.map Char.toLower), String.ofList p.authority,
        String.ofList p.path, String.ofList (p.query.getD []),
        String.ofList (p.fragment.getD [])⟩ := by
  intro p
  have named := named_of_split visible apart scheme authority
  obtain ⟨absolute, whole⟩ := text_spelling named.1 named.2
  have pieces := split_text absolute (fun c mem => not_isControl_of_isVisible
    (visible c (whole ▸ mem))) whole.symm
  rw [apart] at pieces
  cases fault : authorityFault (spelling text.toList).authority with
  | some reason =>
    rw [fault] at pieces
    cases pieces
  | none =>
    rw [fault] at pieces
    exact ⟨absolute, whole, rfl, Except.ok.inj pieces⟩

/-! ## The new text -/

theorem Spelling.Absolute.rejoined {p : Spelling} (h : p.Absolute) : p.rejoined.Absolute := by
  obtain ⟨c, head, letter⟩ := h.letter
  refine ⟨⟨c.toLower, ?_, isAlpha_toLower letter⟩, ?_, h.authority, ?_, ?_, ?_⟩
  · rw [Spelling.rejoined, List.head?_map, head]
    rfl
  · intro d mem
    obtain ⟨e, given, rfl⟩ := List.mem_map.mp mem
    exact isSchemeChar_toLower (h.scheme e given)
  · intro d mem
    simp only [Spelling.rejoined] at mem
    split at mem
    · obtain rfl := List.mem_singleton.mp mem
      decide
    · exact h.path d mem
  · simp only [Spelling.rejoined]
    split
    · exact stops_cons rfl []
    · exact h.rooted
  · intro q some
    exact h.query q (Option.eq_some_of_filter_eq_some some)

theorem lower_of_defaultPort? {scheme : String} {n : Int} (usual : defaultPort? scheme = some n) :
    String.ofList (scheme.toList.map Char.toLower) = scheme := by
  have all : ∀ known ∈ ["ftp", "http", "https", "ws", "wss"],
      String.ofList (known.toList.map Char.toLower) = known := by decide +kernel
  refine all scheme ?_
  by_contra other
  simp only [List.mem_cons, List.not_mem_nil, or_false, not_or] at other
  simp [defaultPort?, List.lookup_cons, beq_false_of_ne, other] at usual

/-- With the scheme in lower case its own port is always known as such. -/
theorem portOf_lower {scheme cs : List Char} {port : Option Int}
    (h : portOf (String.ofList scheme) cs = .ok port) :
    portOf (String.ofList (scheme.map Char.toLower)) cs =
      .ok (port.filter fun n =>
        defaultPort? (String.ofList (scheme.map Char.toLower)) ≠ some n) := by
  unfold portOf at h ⊢
  split at h
  · rename_i empty
    cases h
    rw [if_pos empty]
    rfl
  · rename_i written
    rw [if_neg written]
    cases value : Number.readInt (String.ofList cs) with
    | error fault =>
      rw [value] at h
      cases h
    | ok n =>
      simp only [value, Except.ok.injEq] at h ⊢
      subst h
      by_cases usual : defaultPort? (String.ofList scheme) = some n
      · have same := lower_of_defaultPort? usual
        rw [String.toList_ofList] at same
        rw [same, if_pos usual]
        rfl
      · rw [if_neg usual]
        by_cases lowered : defaultPort? (String.ofList (scheme.map Char.toLower)) = some n
        · simp [lowered, Option.filter]
        · simp [lowered, Option.filter]

/-- A path that begins with a slash can stand anywhere behind a scheme. -/
theorem pathFault?_of_rooted {authority : Bool} {path : List Char} (rooted : Stops (· = '/') path) :
    pathFault? true authority path = none := by
  unfold pathFault?
  cases authority with
  | false => rfl
  | true =>
    cases path with
    | nil => rfl
    | cons c rest =>
      have slash : c = '/' := by simpa using rooted c rfl
      simp [slash]

theorem visible_rejoined {p : Spelling} (absolute : p.Absolute)
    (visible : ∀ c ∈ p.text, isVisible c) : ∀ c ∈ p.rejoined.text, isVisible c := by
  have schemes : ∀ c ∈ p.rejoined.scheme, isVisible c := by
    intro c mem
    have all : ∀ n : Fin 0x80, isSchemeChar (Char.ofNat n.val) = true →
        isVisible (Char.ofNat n.val) = true := by decide
    have kept := absolute.rejoined.scheme c mem
    exact forall_ascii (p := fun c => isSchemeChar c = true → isVisible c = true) all
      (ascii_of_isSchemeChar kept) kept
  have tail : ∀ c ∈ p.rejoined.tail, c = '/' ∨ c ∈ p.tail := by
    intro c mem
    simp only [Spelling.tail, Spelling.rejoined, List.mem_append] at mem ⊢
    rcases mem with (mem | mem) | mem
    · split at mem
      · exact .inl (List.mem_singleton.mp mem)
      · exact .inr (.inl (.inl mem))
    · cases query : p.query with
      | none =>
        rw [query] at mem
        cases mem
      | some q =>
        rw [query] at mem
        cases q with
        | nil => cases mem
        | cons d q => exact .inr (.inl (.inr mem))
    · cases mem
  intro c mem
  simp only [Spelling.text, List.mem_append, List.mem_cons] at mem
  rcases mem with mem | rfl | rfl | rfl | mem | mem
  · exact schemes c mem
  · decide
  · decide
  · decide
  · exact visible c (by simp [Spelling.text, show c ∈ p.authority from mem])
  · rcases tail c mem with rfl | mem
    · decide
    · exact visible c (by simp [Spelling.text, mem])

theorem textFault?_eq_none {cs : List Char} (short : cs.length ≤ lengthLimit)
    (visible : ∀ c ∈ cs, isVisible c) : textFault? cs = none := by
  have none : cs.dropWhile (!isControl ·) = [] :=
    List.dropWhile_eq_nil_iff.mpr fun c mem => by
      simp [not_isControl_of_isVisible (visible c mem)]
  rw [textFault?, if_neg (by omega), none]

theorem isEmpty_ofList (cs : List Char) : (String.ofList cs).isEmpty = cs.isEmpty := by
  rw [Bool.eq_iff_iff, String.isEmpty_iff, List.isEmpty_iff, ← String.toList_inj,
    String.toList_ofList]
  rfl

theorem isEmpty_encode (keep : Char → Bool) (cs : List Char) :
    (Percent.encode keep (String.ofList cs)).isEmpty = cs.isEmpty := by
  rw [Bool.eq_iff_iff, String.isEmpty_iff, List.isEmpty_iff, ← String.toList_inj,
    Percent.toList_encode, String.toList_ofList]
  cases cs with
  | nil => exact iff_of_true rfl rfl
  | cons c cs =>
    refine iff_of_false (fun empty => ?_) (List.cons_ne_nil c cs)
    have first : Percent.written keep c = [] := (List.append_eq_nil_iff.mp empty).1
    obtain ⟨tail, shape, -⟩ := Percent.ofChar_eq_cons c
    unfold Percent.written at first
    split at first
    · cases first
    · rw [shape] at first
      cases first

theorem not_isEmpty_scheme {p : Spelling} (absolute : p.Absolute) : p.scheme.isEmpty = false := by
  obtain ⟨c, head, -⟩ := absolute.letter
  cases scheme : p.scheme with
  | nil => simp [scheme] at head
  | cons d rest => rfl

theorem toLower_toLower_of_scheme {scheme : List Char} (chars : ∀ c ∈ scheme, isSchemeChar c) :
    (scheme.map Char.toLower).map Char.toLower = scheme.map Char.toLower := by
  rw [List.map_map]
  refine List.map_congr_left fun c mem => ?_
  have all : ∀ n : Fin 0x80,
      (Char.ofNat n.val).toLower.toLower = (Char.ofNat n.val).toLower := by decide
  exact forall_ascii (p := fun c => c.toLower.toLower = c.toLower) all
    (ascii_of_isSchemeChar (chars c mem))

/-- The pieces of the new text spell the old URL again, but for what was lost. -/
theorem Spells.rejoined {p : Spelling} {u : Url} (spells : Spells p u) (absolute : p.Absolute) :
    ∃ v, Spells p.rejoined v ∧ Rejoined u v := by
  have schemed := not_isEmpty_scheme absolute.rejoined
  have port := portOf_lower spells.port
  rw [← spells.scheme] at port
  refine ⟨{ u with
    port := u.port.filter fun n => defaultPort? u.scheme ≠ some n
    path := if p.path.isEmpty then "/" else u.path
    query := u.query.filter (!·.isEmpty)
    fragment := none }, ?_, ⟨rfl, rfl, rfl, rfl, ?_, rfl, rfl⟩⟩
  · refine ⟨?_, spells.userInfo, spells.host, ?_, ?_, ?_, ?_, rfl⟩
    · simp only [Spelling.rejoined, toLower_toLower_of_scheme absolute.scheme]
      exact spells.scheme
    · simp only [Spelling.rejoined, ← spells.scheme]
      exact port
    · rw [schemed]
      exact pathFault?_of_rooted absolute.rejoined.rooted
    · simp only [schemed, Bool.not_false, Bool.true_or, ↓reduceIte]
      simp only [Spelling.rejoined]
      split
      · decide +kernel
      · exact spells.path_of_absolute absolute
    · simp only [spells.query, Spelling.rejoined]
      cases p.query with
      | none => rfl
      | some q => cases empty : q.isEmpty <;> simp [Option.filter, isEmpty_encode, empty]
  · simp only [target]
    split
    · rename_i empty
      have root : u.path = "" := by
        rw [spells.path_of_absolute absolute, List.isEmpty_iff.mp empty]
        decide +kernel
      rw [root]
      decide
    · rfl

/-- A text that is put together from the parts of another spells the same URL, but for what was
lost. -/
theorem read_rejoined {text joined : String} {u : Url} (h : read text = .ok u)
    (absolute : (spelling text.toList).Absolute)
    (spelled : joined.toList = (spelling text.toList).rejoined.text)
    (fine : textFault? joined.toList = none) :
    ∃ v, read joined = .ok v ∧ Spells (spelling text.toList).rejoined v ∧ Rejoined u v := by
  obtain ⟨-, spells⟩ := read_eq_ok_iff.mp h
  obtain ⟨v, again, same⟩ := spells.rejoined absolute
  refine ⟨v, read_eq_ok_iff.mpr ⟨fine, ?_⟩, again, same⟩
  rw [spelled, spelling_text absolute.rejoined]
  exact again

/-! ## Taking the text of the URL apart -/

theorem hostText_subset (authority : List Char) : hostText authority ⊆ afterLast '@' authority := by
  show (takeHost (afterLast '@' authority)).1 ⊆ _
  unfold takeHost
  dsimp only
  split
  · exact List.take_subset _ _
  · exact (List.takeWhile_prefix _).subset

/-- The host that is read from an authority is written as it is, or stands in the brackets of the
authority. -/
theorem host_cases {authority : List Char} {host : String}
    (read : hostOf (hostText authority) = .ok host) :
    Percent.Encoded inHost host.toList ∨
      ∃ inner, hostText authority = '[' :: (inner ++ [']']) ∧ Ip.isV6 inner ∧
        host.toList = inner := by
  rcases hostOf_eq_ok read with ⟨-, rfl⟩ | ⟨v4, rfl⟩ | ⟨inner, shape, v6, rfl⟩ | ⟨-, -, rfl⟩
  · exact .inl nofun
  · exact .inl (by simpa using encoded_of_isV4 v4)
  · exact .inr ⟨inner, shape, v6, String.toList_ofList⟩
  · exact .inl (Percent.encoded_encode _ _)

/-- What stands behind the last closing bracket of an authority stands behind its host. -/
theorem place_of_hostText {authority inner : List Char}
    (text : hostText authority = '[' :: (inner ++ [']'])) :
    ∃ behind, afterLast '@' authority = '[' :: (inner ++ ']' :: behind) := by
  have whole : hostText authority <+: afterLast '@' authority := by
    show (takeHost (afterLast '@' authority)).1 <+: _
    unfold takeHost
    dsimp only
    split
    · exact List.take_prefix _ _
    · exact List.takeWhile_prefix _
  obtain ⟨behind, e⟩ := whole
  exact ⟨behind, by rw [← e, text]; simp⟩

/-- An address in the brackets of a sound authority stays sound with any port behind it: where its
first bracket closes, only a port can have stood before, and none is written in front of that. -/
theorem bracketFault_of_hostText {authority inner port other : List Char}
    (sound : bracketFault authority = none)
    (text : hostText authority = '[' :: (inner ++ [']']))
    (place : afterLast '@' other = '[' :: (inner ++ ']' :: port)) (colon : Stops (· = ':') port) :
    bracketFault other = none := by
  obtain ⟨behind, there⟩ := place_of_hostText text
  obtain ⟨-, tail, rest, stops, address⟩ := of_bracketFault sound (by simp [there])
  obtain rfl : tail = inner ++ ']' :: behind := by simpa [there] using rest.symm
  by_cases twice : ']' ∈ inner
  · obtain ⟨first, second, rfl, once⟩ := List.eq_append_cons_of_mem twice
    have cut : cutAt ']' (first ++ ']' :: second ++ ']' :: behind) =
        (first, second ++ ']' :: behind) := by
      rw [List.append_assoc]
      exact cutAt_append once _
    rw [cut] at stops address
    have bracketed : afterLast '@' other = '[' :: (first ++ ']' :: (second ++ ']' :: port)) := by
      simp [place]
    refine bracketFault_of_bracketed bracketed once ?_ address
    intro c head
    cases second with
    | nil =>
      have bracket := stops ']' rfl
      simp at bracket
    | cons d rest => exact stops c head
  · rw [cutAt_append twice] at stops address
    exact bracketFault_of_bracketed place twice colon address

/-- The text of a URL that was read from sound pieces comes apart into the pieces of the URL. -/
theorem split_of_spells {p : Spelling} {v : Url} (absolute : p.Absolute)
    (printable : ∀ c ∈ p.text, isControl c = false) (sound : authorityFault p.authority = none)
    (spells : Spells p v) (placed : v.written.authority ≠ []) :
    Clean v ∧ ∃ parts, split v.text = .ok parts ∧ parts.scheme = v.scheme ∧
      parts.authority = String.ofList v.written.authority := by
  have kinds := host_cases spells.host
  have clean : Clean v := by
    refine clean_of_spells absolute spells ?_
    rcases kinds with encoded | ⟨inner, text, -, host⟩
    · exact fits_of_encoded encoded
    · intro c mem
      refine fits_of_place absolute printable sound (hostText_subset _ ?_)
      simp [text, ← host, mem]
  have fine : authorityFault v.written.authority = none := by
    rcases kinds with encoded | ⟨inner, text, v6, host⟩
    · exact (clean.authority_of_encoded encoded).1
    · have shape : v.hostPart ++ v.portPart = '[' :: (inner ++ ']' :: v.portPart) := by
        simp [hostPart, host, Ip.colon_mem_of_isV6 v6]
      exact clean.authorityFault_written
        (bracketFault_of_hostText (bracketFault_of_authorityFault sound) text
          (clean.afterLast_authority.trans shape) (stops_portPart v))
  have scheme : v.scheme ≠ "" := by
    obtain ⟨c, head, -⟩ := clean.letter
    rintro none
    rw [none] at head
    cases head
  have apart := split_text clean.absolute_written clean.not_isControl_written
    (text_written_of_authority scheme placed).symm
  rw [fine] at apart
  refine ⟨clean, _, apart, ?_, rfl⟩
  rw [written, spells.scheme, String.toList_ofList, toLower_toLower_of_scheme absolute.scheme]

end IndexExplorer.Url
