import IndexExplorer.Proofs.Url.Authority
import IndexExplorer.Proofs.Url.Path

/-!
URLs in normal form, and their texts taken apart.

* `normal_of_read`: what is read from an absolute text is in normal form;
* `text_written`, `absolute_written`: the text of a URL in normal form is made up of its own parts;
* `split_text`: such a text comes apart into these parts.
-/
namespace IndexExplorer.Url

open Text UrlParts

/-! ## Normal form -/

/-- A character that an authority may hold: it does not end one, is no control, and stands for
nothing else. -/
def fits (c : Char) : Bool := !endsAuthority c && !isControl c && !disguised.contains c.toNat

/-- A URL with a scheme, with no character in any part that would end that part in a text. -/
structure Clean (u : Url) : Prop where
  letter : ∃ c, u.scheme.toList.head? = some c ∧ c.isAlpha
  scheme : ∀ c ∈ u.scheme.toList, isSchemeChar c
  userInfo : Percent.Encoded inUserInfo u.userInfo.toList
  fits_host : ∀ c ∈ u.host.toList, fits c ∧ c ≠ '@'
  path : Percent.Encoded inPath u.path.toList
  rooted : Stops (· = '/') u.path.toList
  query : ∀ q, u.query = some q → Percent.Encoded inQuery q.toList
  fragment : ∀ f, u.fragment = some f → Percent.Encoded inFragment f.toList

/-- A URL with a scheme and a host, with each part as it is written in a text. -/
structure Normal (u : Url) : Prop extends Clean u where
  named : u.host ≠ ""
  host : Percent.Encoded inHost u.host.toList ∨ Bracketed u.host.toList

/-- What holds of all ASCII characters can be computed. -/
theorem forall_ascii {p : Char → Prop} (h : ∀ n : Fin 0x80, p (Char.ofNat n.val)) {c : Char}
    (ascii : c.toNat < 0x80) : p c := by
  have := h ⟨c.toNat, ascii⟩
  rwa [Char.ofNat_toNat] at this

theorem ascii_of_isAlphanum {c : Char} (h : c.isAlphanum) : c.toNat < 0x80 := by
  change (decide (65 ≤ c.val ∧ c.val ≤ 90) || (decide (97 ≤ c.val) && decide (c.val ≤ 122)) ||
    (decide (48 ≤ c.val) && decide (c.val ≤ 57))) = true at h
  simp only [Bool.or_eq_true, Bool.and_eq_true, decide_eq_true_eq,
    UInt32.le_iff_toNat_le] at h
  change ((65 ≤ c.toNat ∧ c.toNat ≤ 90) ∨ (97 ≤ c.toNat ∧ c.toNat ≤ 122)) ∨
    (48 ≤ c.toNat ∧ c.toNat ≤ 57) at h
  omega

theorem ascii_of_isSchemeChar {c : Char} (h : isSchemeChar c) : c.toNat < 0x80 := by
  simp only [isSchemeChar, Bool.or_eq_true, decide_eq_true_eq] at h
  rcases h with ((alphanumeric | rfl) | rfl) | rfl
  · exact ascii_of_isAlphanum alphanumeric
  · decide
  · decide
  · decide

theorem ascii_of_inHost {c : Char} (h : inHost c) : c.toNat < 0x80 := by
  have listed : ∀ c ∈ ['!', '$', '&', '\'', '(', ')', '*', '+', ',', ';', '=', '"', '\x60', '\x7b',
      '\x7d', '%', '|', '\\'], c.toNat < 0x80 := forall_mem_of_all (by decide)
  simp only [inHost, Percent.isUnreserved, Bool.or_eq_true, decide_eq_true_eq,
    List.contains_eq_mem] at h
  rcases h with ((((alphanumeric | rfl) | rfl) | rfl) | rfl) | mem
  · exact ascii_of_isAlphanum alphanumeric
  · decide
  · decide
  · decide
  · decide
  · exact listed c mem

theorem fits_of_mem_marks {c : Char} (mem : c ∈ Percent.marks) : fits c := by
  have all : ∀ c ∈ Percent.marks, fits c = true := forall_mem_of_all (by decide)
  exact all c mem

theorem fits_of_inHost {c : Char} (h : inHost c) : fits c ∧ c ≠ '@' := by
  have all : ∀ n : Fin 0x80, inHost (Char.ofNat n.val) = true →
      fits (Char.ofNat n.val) = true ∧ Char.ofNat n.val ≠ '@' := by decide
  exact forall_ascii (p := fun c => inHost c = true → fits c = true ∧ c ≠ '@') all
    (ascii_of_inHost h) h

theorem fits_of_inUserInfo {c : Char} (h : inUserInfo c) : fits c := by
  have ascii : c.toNat < 0x80 := by
    simp only [inUserInfo, printableBut, Bool.and_eq_true, decide_eq_true_eq] at h
    omega
  have all : ∀ n : Fin 0x80, inUserInfo (Char.ofNat n.val) = true →
      fits (Char.ofNat n.val) = true := by
    decide
  exact forall_ascii (p := fun c => inUserInfo c = true → fits c = true) all ascii h

/-! ## The text of a URL in normal form -/

/-- The user in front of an authority. -/
def userPart (u : Url) : List Char := if u.userInfo.isEmpty then [] else u.userInfo.toList ++ ['@']

/-- The host of an authority; addresses with colons in brackets. -/
def hostPart (u : Url) : List Char :=
  if ':' ∈ u.host.toList then '[' :: (u.host.toList ++ [']']) else u.host.toList

/-- The port at the end of an authority. -/
def portPart (u : Url) : List Char :=
  match u.port with
  | some n => ':' :: (toString n).toList
  | none => []

/-- The pieces of a URL's text. -/
def written (u : Url) : Spelling where
  scheme := u.scheme.toList
  authority := u.userPart ++ (u.hostPart ++ u.portPart)
  path := u.path.toList
  query := u.query.map String.toList
  fragment := u.fragment.map String.toList

variable {u : Url}

theorem toList_hostPort (u : Url) : u.hostPort.toList = u.hostPart ++ u.portPart := by
  simp only [hostPort, hostPart, portPart, List.contains_eq_mem, decide_eq_true_eq]
  split <;> cases u.port <;> simp

theorem hostPart_ne_nil (host : u.host ≠ "") : u.hostPart ≠ [] := by
  unfold hostPart
  split
  · exact List.cons_ne_nil _ _
  · simpa using host

/-- What is in front of the query in the text of a URL. -/
def front (u : Url) : List Char :=
  (if u.scheme.isEmpty then [] else u.scheme.toList ++ [':']) ++
    ((if u.written.authority.isEmpty then [] else '/' :: '/' :: u.written.authority) ++
      u.path.toList)

theorem text_front (u : Url) :
    u.text.toList = u.front ++ (marked '?' u.written.query ++ marked '#' u.written.fragment) := by
  have pieces : ((if u.userInfo.isEmpty then "" else u.userInfo ++ "@") ++ u.hostPort).toList =
      u.written.authority := by
    rw [String.toList_append, toList_hostPort, written, userPart]
    split <;> simp
  have nobody : ∀ a : String, a.isEmpty = a.toList.isEmpty := fun a => by
    rw [Bool.eq_iff_iff, String.isEmpty_iff, List.isEmpty_iff, String.toList_eq_nil_iff]
  simp only [Url.text, front, ← pieces]
  generalize (if u.userInfo.isEmpty then "" else u.userInfo ++ "@") ++ u.hostPort = authority
  simp only [nobody, apply_ite String.toList, String.toList_append, written]
  cases u.query <;> cases u.fragment <;> simp [marked]

/-- The text of a URL with a scheme and an authority is made up of its pieces. -/
theorem text_written_of_authority (scheme : u.scheme ≠ "") (placed : u.written.authority ≠ []) :
    u.written.text = u.text.toList := by
  have schemed : ¬ u.scheme.isEmpty = true := by simpa using scheme
  have named : ¬ u.written.authority.isEmpty = true := by simpa using placed
  rw [text_front, front, if_neg schemed, if_neg named]
  simp [Spelling.text, Spelling.tail, written]

theorem text_written (scheme : u.scheme ≠ "") (host : u.host ≠ "") :
    u.written.text = u.text.toList :=
  text_written_of_authority scheme (by simp [written, hostPart_ne_nil host])

theorem mem_portPart {c : Char} (mem : c ∈ u.portPart) : c = ':' ∨ c = '-' ∨ c ∈ digitChars := by
  unfold portPart at mem
  split at mem
  · rcases List.mem_cons.mp mem with rfl | mem
    · exact .inl rfl
    · by_contra other
      simp only [not_or] at other
      exact notMem_toString_int other.2.2 other.2.1 _ mem
  · cases mem

theorem fits_portPart {c : Char} (mem : c ∈ u.portPart) : fits c ∧ c ≠ '@' ∧ c ≠ '[' ∧ c ≠ ']' := by
  have digits : ∀ c ∈ digitChars, fits c = true ∧ c ≠ '@' ∧ c ≠ '[' ∧ c ≠ ']' :=
    forall_mem_of_all (by decide)
  rcases mem_portPart mem with rfl | rfl | digit
  · decide
  · decide
  · exact digits c digit

theorem stops_portPart (u : Url) : Stops (· = ':') u.portPart := by
  intro c head
  unfold portPart at head
  split at head
  · simpa using (Option.some.inj head).symm
  · cases head

theorem mem_hostPart {c : Char} (mem : c ∈ u.hostPart) :
    c ∈ u.host.toList ∨ ':' ∈ u.host.toList ∧ (c = '[' ∨ c = ']') := by
  unfold hostPart at mem
  split at mem
  · rename_i colon
    simp only [List.mem_cons, List.mem_append, List.not_mem_nil, or_false] at mem
    rcases mem with rfl | mem | rfl
    · exact .inr ⟨colon, .inl rfl⟩
    · exact .inl mem
    · exact .inr ⟨colon, .inr rfl⟩
  · exact .inl mem

namespace Clean

theorem fits_place (h : Clean u) {c : Char} (mem : c ∈ u.hostPart ++ u.portPart) :
    fits c ∧ c ≠ '@' := by
  rcases List.mem_append.mp mem with mem | mem
  · rcases mem_hostPart mem with mem | ⟨-, rfl | rfl⟩
    · exact h.fits_host c mem
    · decide
    · decide
  · exact ⟨(fits_portPart mem).1, (fits_portPart mem).2.1⟩

theorem fits_userPart (h : Clean u) {c : Char} (mem : c ∈ u.userPart) : fits c := by
  unfold userPart at mem
  split at mem
  · cases mem
  · rcases List.mem_append.mp mem with mem | mem
    · rcases h.userInfo c mem with kept | mark
      · exact fits_of_inUserInfo kept
      · exact fits_of_mem_marks mark
    · obtain rfl := List.mem_singleton.mp mem
      decide

theorem fits_authority (h : Clean u) : ∀ c ∈ u.written.authority, fits c := by
  intro c mem
  rcases List.mem_append.mp mem with mem | mem
  · exact h.fits_userPart mem
  · exact (h.fits_place mem).1

theorem absolute_written (h : Clean u) : u.written.Absolute where
  letter := h.letter
  scheme := h.scheme
  authority c mem := by
    have fit := h.fits_authority c mem
    simp only [fits, Bool.and_eq_true, Bool.not_eq_true'] at fit
    exact fit.1.1
  path c mem := by
    by_contra ends
    simp only [endsPath, Bool.not_eq_false, Bool.or_eq_true, decide_eq_true_eq] at ends
    rcases ends with rfl | rfl
    · exact h.path.notMem (by decide) (by decide) mem
    · exact h.path.notMem (by decide) (by decide) mem
  rooted := h.rooted
  query q some := by
    obtain ⟨text, given, rfl⟩ := Option.map_eq_some_iff.mp some
    exact (h.query text given).notMem (by decide) (by decide)

/-- The host of the text is found behind the user, and with its brackets, if it has any. -/
theorem afterLast_authority (h : Clean u) :
    afterLast '@' u.written.authority = u.hostPart ++ u.portPart := by
  have nobody : '@' ∉ u.hostPart ++ u.portPart := fun mem => (h.fits_place mem).2 rfl
  simp only [written, userPart]
  split
  · exact afterLast_of_notMem nobody
  · rw [List.append_assoc]
    exact afterLast_append nobody _

/-- A host that was encoded has no brackets around it, and nor has anything else there. -/
theorem notMem_authority (h : Clean u) (encoded : Percent.Encoded inHost u.host.toList) {c : Char}
    (bracket : c = '[' ∨ c = ']') : c ∉ u.written.authority := by
  have colonless : ':' ∉ u.host.toList := encoded.notMem (by decide) (by decide)
  have user : c ∉ u.userPart := by
    unfold userPart
    split
    · exact List.not_mem_nil
    · rw [List.mem_append, not_or, List.mem_singleton]
      rcases bracket with rfl | rfl
      · exact ⟨h.userInfo.notMem (by decide) (by decide), by decide⟩
      · exact ⟨h.userInfo.notMem (by decide) (by decide), by decide⟩
  have host : c ∉ u.hostPart := by
    intro mem
    rcases mem_hostPart mem with mem | ⟨colon, -⟩
    · rcases bracket with rfl | rfl
      · exact encoded.notMem (by decide) (by decide) mem
      · exact encoded.notMem (by decide) (by decide) mem
    · exact colonless colon
  have port : c ∉ u.portPart := by
    intro mem
    rcases bracket with rfl | rfl
    · exact (fits_portPart mem).2.2.1 rfl
    · exact (fits_portPart mem).2.2.2 rfl
  simp [written, user, host, port]

/-- Only its brackets can be wrong with the authority. -/
theorem authorityFault_written (h : Clean u) (brackets : bracketFault u.written.authority = none) :
    authorityFault u.written.authority = none := by
  have same : ∀ c ∈ u.written.authority, disguised.contains c.toNat = false := by
    intro c mem
    have fit := h.fits_authority c mem
    simp only [fits, Bool.and_eq_true, Bool.not_eq_true'] at fit
    exact fit.2
  have undisguised : u.written.authority.any (disguised.contains ·.toNat) = false := by
    simpa using same
  simp only [authorityFault, brackets, undisguised]
  rfl

/-- The authority of an encoded host has nothing wrong with it, and the host is found again. -/
theorem authority_of_encoded (h : Clean u) (encoded : Percent.Encoded inHost u.host.toList) :
    authorityFault u.written.authority = none ∧ hostIn u.written.authority = u.host.toList := by
  have opened := h.notMem_authority encoded (.inl rfl)
  have closed := h.notMem_authority encoded (.inr rfl)
  have colonless : ':' ∉ u.host.toList := encoded.notMem (by decide) (by decide)
  have bare : u.hostPart = u.host.toList := by simp [hostPart, colonless]
  have cut := before_append_of_stops (eq_false_of_notMem colonless) (stops_portPart u)
  have unbracketed : '[' ∉ u.hostPart ++ u.portPart := fun mem =>
    opened (List.mem_append_right _ mem)
  refine ⟨h.authorityFault_written (bracketFault_of_notMem opened closed), ?_⟩
  have place := h.afterLast_authority
  rw [bare] at place unbracketed
  simp only [hostIn, place, bracketed_eq_nil_iff.mpr unbracketed, cutAt, cut]
  rfl

theorem lost_of_isControl {out : List Char} {c : Char} (control : isControl c) :
    printableBut out c = false := by
  simp only [isControl, Bool.or_eq_true, decide_eq_true_eq] at control
  have unprintable : ¬ (0x20 ≤ c.toNat ∧ c.toNat < 0x7f) := by omega
  simp only [printableBut, Bool.and_eq_false_iff, decide_eq_false_iff_not]
  rw [← not_and_or]
  exact .inl unprintable

theorem not_isControl_of_isSchemeChar {c : Char} (h : isSchemeChar c) : isControl c = false := by
  have all : ∀ n : Fin 0x80, isSchemeChar (Char.ofNat n.val) = true →
      isControl (Char.ofNat n.val) = false := by decide
  exact forall_ascii (p := fun c => isSchemeChar c = true → isControl c = false) all
    (ascii_of_isSchemeChar h) h

theorem not_isControl_of_encoded {keep : Char → Bool} {cs : List Char}
    (encoded : Percent.Encoded keep cs) (printable : ∀ c, isControl c → keep c = false) :
    ∀ c ∈ cs, isControl c = false := by
  intro c mem
  by_contra control
  rw [Bool.not_eq_false] at control
  rcases encoded c mem with kept | mark
  · rw [printable c control] at kept
    cases kept
  · have all : ∀ c ∈ Percent.marks, isControl c = false := forall_mem_of_all (by decide)
    rw [all c mark] at control
    cases control

theorem not_isControl_marked {keep : Char → Bool} {mark : Char} {part : Option String}
    (encoded : ∀ s, part = some s → Percent.Encoded keep s.toList)
    (printable : ∀ c, isControl c → keep c = false) (visible : isControl mark = false) :
    ∀ c ∈ marked mark (part.map String.toList), isControl c = false := by
  intro c mem
  cases part with
  | none => cases mem
  | some s =>
    rcases List.mem_cons.mp mem with rfl | mem
    · exact visible
    · exact not_isControl_of_encoded (encoded s rfl) printable c mem

/-- The text of such a URL has no controls. -/
theorem not_isControl_written (h : Clean u) : ∀ c ∈ u.written.text, isControl c = false := by
  have scheme : ∀ c ∈ u.written.scheme, isControl c = false := fun c mem =>
    not_isControl_of_isSchemeChar (h.scheme c mem)
  have authority : ∀ c ∈ u.written.authority, isControl c = false := by
    intro c mem
    have fit := h.fits_authority c mem
    simp only [fits, Bool.and_eq_true, Bool.not_eq_true'] at fit
    exact fit.1.2
  have path : ∀ c ∈ u.written.path, isControl c = false :=
    not_isControl_of_encoded h.path fun c => lost_of_isControl
  have query : ∀ c ∈ marked '?' u.written.query, isControl c = false :=
    not_isControl_marked h.query (fun c => lost_of_isControl) (by decide)
  have fragment : ∀ c ∈ marked '#' u.written.fragment, isControl c = false :=
    not_isControl_marked h.fragment (fun c => lost_of_isControl) (by decide)
  intro c mem
  simp only [Spelling.text, Spelling.tail, List.mem_append, List.mem_cons] at mem
  rcases mem with mem | rfl | rfl | rfl | mem | (mem | mem) | mem
  · exact scheme c mem
  · decide
  · decide
  · decide
  · exact authority c mem
  · exact path c mem
  · exact query c mem
  · exact fragment c mem

end Clean

/-- The text of a URL in normal form has no fault in its authority, and its host is found again. -/
theorem Normal.authority (h : Normal u) :
    authorityFault u.written.authority = none ∧ hostIn u.written.authority = u.host.toList := by
  rcases h.host with encoded | ⟨colon, once, address⟩
  · exact h.authority_of_encoded encoded
  · have shape : u.hostPart ++ u.portPart = '[' :: (u.host.toList ++ ']' :: u.portPart) := by
      simp [hostPart, colon]
    have place := h.afterLast_authority
    rw [shape] at place
    constructor
    · exact h.authorityFault_written
        (bracketFault_of_bracketed place once (stops_portPart u) address)
    · simp [hostIn, place, before_eq_of_head, cutAt_append once]

/-! ## Reading gives the normal form -/

theorem isSchemeChar_toLower {c : Char} (h : isSchemeChar c) : isSchemeChar c.toLower := by
  have all : ∀ n : Fin 0x80, isSchemeChar (Char.ofNat n.val) = true →
      isSchemeChar (Char.ofNat n.val).toLower = true := by decide
  exact forall_ascii (p := fun c => isSchemeChar c = true → isSchemeChar c.toLower = true) all
    (ascii_of_isSchemeChar h) h

theorem isAlpha_toLower {c : Char} (h : c.isAlpha) : c.toLower.isAlpha := by
  have ascii : c.toNat < 0x80 := ascii_of_isAlphanum (by simp [Char.isAlphanum, h])
  have all : ∀ n : Fin 0x80, (Char.ofNat n.val).isAlpha = true →
      (Char.ofNat n.val).toLower.isAlpha = true := by decide
  exact forall_ascii (p := fun c => c.isAlpha = true → c.toLower.isAlpha = true) all ascii h

theorem rooted_encode {cs : List Char} (rooted : Stops (· = '/') cs) :
    Stops (· = '/') (Percent.encode inPath (String.ofList cs)).toList := by
  intro c head
  cases cs with
  | nil => cases head
  | cons d rest =>
    obtain rfl : d = '/' := by simpa using rooted d rfl
    have first : (String.ofList ('/' :: rest)).toList.head? = some '/' := by simp
    rw [Percent.head?_encode (by decide) first] at head
    simpa using (Option.some.inj head).symm

/-- What is read behind the user of a text without controls fits into an authority again. -/
theorem fits_of_place {p : Spelling} (absolute : p.Absolute)
    (printable : ∀ c ∈ p.text, isControl c = false) (sound : authorityFault p.authority = none)
    {c : Char} (place : c ∈ afterLast '@' p.authority) : fits c ∧ c ≠ '@' := by
  have inside : c ∈ p.authority := (afterLast_suffix '@' p.authority).subset place
  have in_text : c ∈ p.text := by simp [Spelling.text, inside]
  have undisguised : disguised.contains c.toNat = false := by
    unfold authorityFault at sound
    split at sound
    · cases sound
    · split at sound
      · cases sound
      · rename_i none
        simp only [List.any_eq_true, not_exists, not_and, Bool.not_eq_true] at none
        exact none c inside
  constructor
  · simp only [fits, absolute.authority c inside, printable c in_text, undisguised]
    rfl
  · rintro rfl
    exact notMem_afterLast '@' p.authority place

/-- So does what is written for a host. -/
theorem fits_of_encoded {cs : List Char} (encoded : Percent.Encoded inHost cs) :
    ∀ c ∈ cs, fits c ∧ c ≠ '@' := by
  intro c mem
  rcases encoded c mem with kept | mark
  · exact fits_of_inHost kept
  · have all : ∀ c ∈ Percent.marks, c ≠ '@' := forall_mem_of_all (by decide)
    exact ⟨fits_of_mem_marks mark, all c mark⟩

theorem Spells.encoded_query {p : Spelling} (spells : Spells p u) :
    ∀ q, u.query = some q → Percent.Encoded inQuery q.toList := by
  intro q some
  rw [spells.query] at some
  obtain ⟨text, -, rfl⟩ := Option.map_eq_some_iff.mp some
  exact Percent.encoded_encode _ _

theorem Spells.encoded_fragment {p : Spelling} (spells : Spells p u) :
    ∀ f, u.fragment = some f → Percent.Encoded inFragment f.toList := by
  intro f some
  rw [spells.fragment] at some
  obtain ⟨text, -, rfl⟩ := Option.map_eq_some_iff.mp some
  exact Percent.encoded_encode _ _

/-- The URL that the pieces of an absolute text spell has no character that would end a part. -/
theorem clean_of_spells {p : Spelling} (absolute : p.Absolute) (spells : Spells p u)
    (hosts : ∀ c ∈ u.host.toList, fits c ∧ c ≠ '@') : Clean u := by
  obtain ⟨c, head, letter⟩ := absolute.letter
  refine
    { letter := ⟨c.toLower, ?_, isAlpha_toLower letter⟩
      scheme := ?_
      userInfo := spells.userInfo ▸ Percent.encoded_encode _ _
      fits_host := hosts
      path := spells.path ▸ Percent.encoded_encode _ _
      rooted := ?_
      query := spells.encoded_query
      fragment := spells.encoded_fragment }
  · rw [spells.scheme, String.toList_ofList, List.head?_map, head]
    rfl
  · intro d mem
    rw [spells.scheme, String.toList_ofList] at mem
    obtain ⟨e, given, rfl⟩ := List.mem_map.mp mem
    exact isSchemeChar_toLower (absolute.scheme e given)
  · rw [spells.path_of_absolute absolute]
    exact rooted_encode (rooted_normalPath absolute.rooted)

/-- What is read from a text with a scheme and a host is in normal form, if the parts of the text
are sound and a bracket is closed once. -/
theorem normal_of_read {text : String} (h : read text = .ok u) (scheme : u.scheme ≠ "")
    (host : u.host ≠ "") (sound : authorityFault (spelling text.toList).authority = none)
    (closed : Closed (afterLast '@' (spelling text.toList).authority)) : Normal u := by
  obtain ⟨absolute, whole⟩ := absolute_of_read h scheme host
  obtain ⟨fine, spells⟩ := read_eq_ok_iff.mp h
  have printable := not_isControl_of_textFault fine
  rw [← whole] at printable
  generalize spelling text.toList = p at *
  have hosts : (Percent.Encoded inHost u.host.toList ∨ Bracketed u.host.toList) ∧
      ∀ c ∈ u.host.toList, fits c ∧ c ≠ '@' := by
    rcases host_of_hostText (bracketFault_of_authorityFault sound) closed spells.host host with
      ⟨same, kind⟩ | ⟨cs, -, -, e⟩
    · exact ⟨kind.imp_left encoded_of_isV4, fun c mem => fits_of_place absolute printable sound
        (hostIn_subset p.authority (same ▸ mem))⟩
    · have encoded := Percent.encoded_encode inHost (String.ofList (cs.map Char.toLower))
      rw [← e] at encoded
      exact ⟨.inl encoded, fits_of_encoded encoded⟩
  exact { clean_of_spells absolute spells hosts.2 with named := host, host := hosts.1 }

end IndexExplorer.Url
