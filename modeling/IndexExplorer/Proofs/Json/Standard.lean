import IndexExplorer.Json.Finite
import IndexExplorer.Proofs.Json.RoundTrip
import IndexExplorer.Proofs.Number.Layout

/-!
Texts of the JSON standard's grammar.

Outside of strings the grammar has no `N` and no `I`, with which the words begin that are written
for doubles that are not finite. A value is thus written in the grammar exactly when all of its
doubles are finite.

* `Grammar`, `Standard`: the grammar;
* `grammar_chars`: a value with finite doubles only is written in the grammar;
* `bare`, `Leaves`: what a text has outside of its strings;
* `standard_chars_iff`: no other value is.
-/
namespace IndexExplorer.Json

open Number Text

/-! ## The grammar -/

/-- Blanks between tokens, or none. -/
def IsGap (cs : List Char) : Prop := ∀ c ∈ cs, isGap c

/-- What stands for a character, or for half of one, between the quotes of a string. -/
inductive Piece : List Char → Prop
  | plain (c : Char) (shown : 0x20 ≤ c.toNat) (quote : c ≠ '"') (mark : c ≠ '\\') : Piece [c]
  | short (c : Char) (known : c ∈ ['"', '\\', '/', 'b', 'f', 'n', 'r', 't']) : Piece ['\\', c]
  | unit (ds : List Char) (four : ds.length = 4) (digits : ∀ c ∈ ds, (hexValue? c).isSome) :
    Piece ('\\' :: 'u' :: ds)

/-- A string in its quotes. -/
def IsString (cs : List Char) : Prop :=
  ∃ pieces : List (List Char), (∀ p ∈ pieces, Piece p) ∧ cs = '"' :: pieces.flatten ++ ['"']

/-- What a text stands for: a value, a value between blanks, one or more items of a list, or one or
more members of an object. -/
inductive Kind where
  | value | element | items | members

/-- The grammar of the JSON standard. -/
inductive Grammar : Kind → List Char → Prop
  | word (w : String) (known : w ∈ ["null", "true", "false"]) : Grammar .value w.toList
  | number (s : Spelling) (tidy : s.Tidy) : Grammar .value s.chars
  | string (cs : List Char) (quoted : IsString cs) : Grammar .value cs
  | emptyList (gap : List Char) (blank : IsGap gap) : Grammar .value ('[' :: (gap ++ [']']))
  | list (cs : List Char) (items : Grammar .items cs) : Grammar .value ('[' :: (cs ++ [']']))
  | emptyObject (gap : List Char) (blank : IsGap gap) : Grammar .value ('\x7b' :: (gap ++ ['\x7d']))
  | object (cs : List Char) (members : Grammar .members cs) :
    Grammar .value ('\x7b' :: (cs ++ ['\x7d']))
  | element (before cs after : List Char) (front : IsGap before) (value : Grammar .value cs)
      (back : IsGap after) : Grammar .element (before ++ (cs ++ after))
  | item (cs : List Char) (element : Grammar .element cs) : Grammar .items cs
  | moreItems (cs more : List Char) (first : Grammar .items cs) (rest : Grammar .items more) :
    Grammar .items (cs ++ ',' :: more)
  | member (before name after cs : List Char) (front : IsGap before) (quoted : IsString name)
      (back : IsGap after) (element : Grammar .element cs) :
    Grammar .members (before ++ (name ++ (after ++ ':' :: cs)))
  | moreMembers (cs more : List Char) (first : Grammar .members cs) (rest : Grammar .members more) :
    Grammar .members (cs ++ ',' :: more)

/-- A text of the JSON standard: a value between blanks. -/
def Standard (cs : List Char) : Prop := Grammar .element cs

/-! ## What is written -/

theorem isGap_nil : IsGap [] := nofun

theorem isGap_space : IsGap [' '] := List.forall_mem_singleton.mpr (by decide)

/-- A value behind blanks or none. -/
theorem Grammar.behind {gap cs : List Char} (value : Grammar .value cs) (blank : IsGap gap) :
    Grammar .element (gap ++ cs) := by
  have framed := element gap cs [] blank value isGap_nil
  rwa [List.append_nil] at framed

theorem hexValue?_of_mem_toDigits {n : Nat} {c : Char} (mem : c ∈ Nat.toDigits 16 n) :
    (hexValue? c).isSome := by
  induction n using Nat.strongRecOn with
  | _ n ih =>
    have digit : ∀ d < 16, (hexValue? (Nat.digitChar d)).isSome := by decide
    rw [Nat.toDigits_eq_if (by decide)] at mem
    split at mem
    · rename_i small
      rw [List.mem_singleton.mp mem]
      exact digit n small
    · rcases List.mem_append.mp mem with front | last
      · exact ih (n / 16) (by omega) front
      · rw [List.mem_singleton.mp last]
        exact digit (n % 16) (by omega)

theorem piece_unitEscape {n : Nat} (h : n < 0x10000) : Piece (unitEscape n) := by
  refine .unit _ ?_ ?_
  · have short : (Nat.toDigits 16 n).length ≤ 4 :=
      (Nat.length_toDigits_le_iff (by decide) (by decide)).mpr h
    rw [hex, List.length_append, List.length_replicate]
    omega
  · intro c mem
    rcases List.mem_append.mp mem with zero | digit
    · rw [(List.mem_replicate.mp zero).2]
      decide
    · exact hexValue?_of_mem_toDigits digit

/-- A character is written in one piece or in two. -/
theorem exists_pieces (c : Char) :
    ∃ pieces : List (List Char), (∀ p ∈ pieces, Piece p) ∧ pieces.flatten = escapeChar c := by
  have one : ∀ {cs}, Piece cs → ∃ pieces : List (List Char),
      (∀ p ∈ pieces, Piece p) ∧ pieces.flatten = cs := fun {cs} piece =>
    ⟨[cs], List.forall_mem_singleton.mpr piece, by simp⟩
  have range := toNat_cases c
  unfold escapeChar
  dsimp only
  split_ifs with quote mark line back tab bell feed shown plane
  · exact one (.short _ (by decide))
  · exact one (.short _ (by decide))
  · exact one (.short _ (by decide))
  · exact one (.short _ (by decide))
  · exact one (.short _ (by decide))
  · exact one (.short _ (by decide))
  · exact one (.short _ (by decide))
  · exact one (.plain c shown.1 quote mark)
  · exact one (piece_unitEscape plane)
  · refine ⟨[_, _], ?_, List.flatten_cons.trans (by rw [List.flatten_singleton])⟩
    rw [List.forall_mem_cons, List.forall_mem_singleton]
    exact ⟨piece_unitEscape (by omega), piece_unitEscape (by omega)⟩

theorem isString_stringChars (s : String) : IsString (stringChars s) := by
  have all : ∀ cs : List Char, ∃ pieces : List (List Char),
      (∀ p ∈ pieces, Piece p) ∧ pieces.flatten = cs.flatMap escapeChar := by
    intro cs
    induction cs with
    | nil => exact ⟨[], nofun, rfl⟩
    | cons c cs ih =>
      obtain ⟨first, each, own⟩ := exists_pieces c
      obtain ⟨rest, every, others⟩ := ih
      refine ⟨first ++ rest, List.forall_mem_append.mpr ⟨each, every⟩, ?_⟩
      rw [List.flatten_append, own, others, List.flatMap_cons]
  obtain ⟨pieces, each, flat⟩ := all s.toList
  exact ⟨pieces, each, by rw [flat, stringChars]⟩

/-- The numeral of an integer. -/
def intSpelling (n : Int) : Spelling :=
  ⟨if n < 0 then ['-'] else [], Nat.toDigits 10 n.natAbs, none, none⟩

theorem chars_intSpelling (n : Int) : (intSpelling n).chars = intChars n := by
  simp [Spelling.chars, Spelling.unsigned, fractionChars, powerChars, intChars, intSpelling]

theorem tidy_intSpelling (n : Int) : (intSpelling n).Tidy := by
  have sign : (intSpelling n).sign = [] ∨ (intSpelling n).sign = ['-'] := by
    unfold intSpelling
    dsimp only
    split
    · exact .inr rfl
    · exact .inl rfl
  refine ⟨⟨?_, digits_toDigits _, nofun, .inl Nat.toDigits_ne_nil, nofun⟩, sign,
    Nat.toDigits_ne_nil, fun tail => toDigits_head, nofun⟩
  rcases sign with e | e
  · exact .inl e
  · exact .inr (.inr e)

/-- A member is written in the grammar when its value is. -/
theorem grammar_member (k : String) {gap cs : List Char} (value : Grammar .value cs)
    (blank : IsGap gap) : Grammar .members (gap ++ memberText k cs) :=
  .member gap _ [] _ blank (isString_stringChars k) isGap_nil (value.behind isGap_space)

mutual

/-- A value with finite doubles only is written in the grammar, -/
theorem grammar_chars : ∀ v : Json, v.isFinite → Grammar .value (chars v)
  | .null, _ => .word "null" (by decide)
  | .bool true, _ => .word "true" (by decide)
  | .bool false, _ => .word "false" (by decide)
  | .int n, _ => by
    rw [chars, ← chars_intSpelling]
    exact .number _ (tidy_intSpelling n)
  | .float x, finite => by
    obtain ⟨b, size⟩ := Option.isSome_iff_exists.mp finite
    obtain ⟨s, spells, text⟩ := write_spelling moderate_documentStyle size
    rw [chars, text]
    exact .number s spells.tidy
  | .str s, _ => .string _ (isString_stringChars s)
  | .arr [], _ => .emptyList [] isGap_nil
  | .obj [], _ => .emptyObject [] isGap_nil
  | .arr (v :: vs), finite => by
    rw [isFinite, areFinite, Bool.and_eq_true] at finite
    exact .list _ (grammar_restChars vs finite.2
      (.item _ ((grammar_chars v finite.1).behind isGap_nil)))
  | .obj ((k, v) :: ms), finite => by
    rw [isFinite, haveFinite, Bool.and_eq_true] at finite
    exact .object _ (grammar_restMembers ms finite.2
      (grammar_member k (grammar_chars v finite.1) isGap_nil))

/-- and so are the items of a list -/
theorem grammar_restChars : ∀ (vs : List Json), areFinite vs → ∀ {cs}, Grammar .items cs →
    Grammar .items (cs ++ restChars vs)
  | [], _, cs, items => by
    rwa [show restChars [] = [] from rfl, List.append_nil]
  | v :: vs, finite, cs, items => by
    rw [areFinite, Bool.and_eq_true] at finite
    have longer := grammar_restChars vs finite.2
      (.moreItems cs _ items (.item _ ((grammar_chars v finite.1).behind isGap_space)))
    rwa [List.append_assoc] at longer

/-- and the members of an object. -/
theorem grammar_restMembers : ∀ (ms : List (String × Json)), haveFinite ms → ∀ {cs},
    Grammar .members cs → Grammar .members (cs ++ restMembers ms)
  | [], _, cs, members => by
    rwa [show restMembers [] = [] from rfl, List.append_nil]
  | (k, v) :: ms, finite, cs, members => by
    rw [haveFinite, Bool.and_eq_true] at finite
    have longer := grammar_restMembers ms finite.2
      (.moreMembers cs _ members (grammar_member k (grammar_chars v finite.1) isGap_space))
    rwa [List.append_assoc] at longer

end

/-! ## Outside of strings -/

/-- Where a character stands: outside of strings, inside one, or inside behind a backslash. -/
inductive Place where
  | outside | inside | escaped

/-- The characters of a text that stand outside of its strings, quotes aside. -/
def bare : Place → List Char → List Char
  | _, [] => []
  | .outside, c :: cs => if c = '"' then bare .inside cs else c :: bare .outside cs
  | .inside, c :: cs =>
    if c = '"' then bare .outside cs else if c = '\\' then bare .escaped cs else bare .inside cs
  | .escaped, _ :: cs => bare .inside cs

/-- A text in which no string stays open has these characters outside of its strings. -/
def Leaves (cs kept : List Char) : Prop :=
  ∀ rest, bare .outside (cs ++ rest) = kept ++ bare .outside rest

variable {cs ds kept more : List Char}

theorem Leaves.append (first : Leaves cs kept) (second : Leaves ds more) :
    Leaves (cs ++ ds) (kept ++ more) := by
  intro rest
  rw [List.append_assoc, first, second, List.append_assoc]

theorem leaves_plain (plain : '"' ∉ cs) : Leaves cs cs := by
  intro rest
  induction cs with
  | nil => rfl
  | cons c cs ih =>
    rw [List.mem_cons, not_or] at plain
    rw [List.cons_append, bare, if_neg (Ne.symm plain.1), ih plain.2, List.cons_append]

theorem bare_inside_plain (plain : ∀ c ∈ cs, c ≠ '"' ∧ c ≠ '\\') (rest : List Char) :
    bare .inside (cs ++ rest) = bare .inside rest := by
  induction cs with
  | nil => rfl
  | cons c cs ih =>
    obtain ⟨own, others⟩ := List.forall_mem_cons.mp plain
    rw [List.cons_append, bare, if_neg own.1, if_neg own.2, ih others]

/-- A piece of a string does not end it. -/
theorem bare_inside_piece (piece : Piece cs) (rest : List Char) :
    bare .inside (cs ++ rest) = bare .inside rest := by
  cases piece with
  | plain c shown quote mark =>
    exact bare_inside_plain (List.forall_mem_singleton.mpr ⟨quote, mark⟩) rest
  | short c known =>
    rw [List.cons_append, bare, if_neg (by decide), if_pos rfl]
    rfl
  | unit ds four digits =>
    rw [List.cons_append, bare, if_neg (by decide), if_pos rfl]
    have plain : ∀ c ∈ ds, c ≠ '"' ∧ c ≠ '\\' := by
      intro c mem
      constructor
      · rintro rfl
        exact absurd (digits _ mem) (by decide)
      · rintro rfl
        exact absurd (digits _ mem) (by decide)
    exact bare_inside_plain plain rest

theorem leaves_string (quoted : IsString cs) : Leaves cs [] := by
  obtain ⟨pieces, each, rfl⟩ := quoted
  intro rest
  rw [List.append_assoc, List.cons_append, bare, if_pos rfl, List.nil_append]
  induction pieces with
  | nil =>
    rw [List.flatten_nil, List.nil_append, List.singleton_append, bare, if_pos rfl]
  | cons p pieces ih =>
    obtain ⟨own, others⟩ := List.forall_mem_cons.mp each
    rw [List.flatten_cons, List.append_assoc, bare_inside_piece own]
    exact ih others

/-- A character that words for doubles that are not finite begin with. -/
def isLoud (c : Char) : Bool := c = 'N' || c = 'I'

/-- No string stays open, and none of these characters stands outside. -/
def Sober (cs : List Char) : Prop := ∃ kept, Leaves cs kept ∧ ∀ c ∈ kept, isLoud c = false

theorem Sober.append (first : Sober cs) (second : Sober ds) : Sober (cs ++ ds) := by
  obtain ⟨kept, leaves, none⟩ := first
  obtain ⟨more, leaves', none'⟩ := second
  exact ⟨kept ++ more, leaves.append leaves', List.forall_mem_append.mpr ⟨none, none'⟩⟩

theorem sober_plain (plain : ∀ c ∈ cs, c ≠ '"' ∧ isLoud c = false) : Sober cs :=
  ⟨cs, leaves_plain fun mem => (plain _ mem).1 rfl, fun c mem => (plain c mem).2⟩

theorem sober_string (quoted : IsString cs) : Sober cs := ⟨[], leaves_string quoted, nofun⟩

theorem sober_gap (blank : IsGap cs) : Sober cs := by
  refine sober_plain fun c mem => ?_
  have gap : c = ' ' ∨ c = '\t' ∨ c = '\n' ∨ c = '\r' := by
    simpa [isGap, or_assoc] using blank c mem
  rcases gap with rfl | rfl | rfl | rfl <;> decide

theorem sober_mark (c : Char) (plain : c ≠ '"' ∧ isLoud c = false) (sober : Sober cs) :
    Sober (c :: cs) := (sober_plain (List.forall_mem_singleton.mpr plain)).append sober

theorem sober_numeral {s : Spelling} (tidy : s.Tidy) : Sober s.chars := by
  refine sober_plain fun c mem => ?_
  rcases mem_chars tidy.sound mem with digit | mark
  · constructor
    · rintro rfl
      cases digit
    · rw [isLoud, Bool.or_eq_false_iff, decide_eq_false_iff_not, decide_eq_false_iff_not]
      constructor <;> rintro rfl <;> cases digit
  · have each : ∀ c ∈ marks, c ≠ '"' ∧ isLoud c = false := forall_mem_of_all (by decide)
    exact each c mark

/-- The grammar has none of these characters outside of strings. -/
theorem sober_of_grammar {kind : Kind} (h : Grammar kind cs) : Sober cs := by
  have close : Sober [']'] := sober_plain (List.forall_mem_singleton.mpr (by decide))
  have close' : Sober ['\x7d'] := sober_plain (List.forall_mem_singleton.mpr (by decide))
  induction h with
  | word w known =>
    have each : ∀ w ∈ ["null", "true", "false"],
        w.toList.all (fun c => decide (c ≠ '"' ∧ isLoud c = false)) = true := by decide
    refine sober_plain fun c mem => ?_
    exact of_decide_eq_true (List.all_eq_true.mp (each w known) c mem)
  | number s tidy => exact sober_numeral tidy
  | string cs quoted => exact sober_string quoted
  | emptyList gap blank => exact sober_mark '[' (by decide) ((sober_gap blank).append close)
  | list cs items ih => exact sober_mark '[' (by decide) (ih.append close)
  | emptyObject gap blank => exact sober_mark '\x7b' (by decide) ((sober_gap blank).append close')
  | object cs members ih => exact sober_mark '\x7b' (by decide) (ih.append close')
  | element before cs after front value back ih =>
    exact (sober_gap front).append (ih.append (sober_gap back))
  | item cs element ih => exact ih
  | moreItems cs more first rest ih ih' => exact ih.append (sober_mark ',' (by decide) ih')
  | member before name after cs front quoted back element ih =>
    exact (sober_gap front).append
      ((sober_string quoted).append ((sober_gap back).append (sober_mark ':' (by decide) ih)))
  | moreMembers cs more first rest ih ih' => exact ih.append (sober_mark ',' (by decide) ih')

/-! ## Doubles that are not finite -/

theorem Leaves.unique (leaves : Leaves cs kept) (leaves' : Leaves cs more) : kept = more :=
  List.append_cancel_right ((leaves []).symm.trans (leaves' []))

/-- No string stays open, and one of these characters stands outside when something is not
finite. -/
def Betrays (cs : List Char) (finite : Bool) : Prop :=
  ∃ kept, Leaves cs kept ∧ (finite = false → ∃ c ∈ kept, isLoud c)

variable {finite finite' : Bool}

theorem Betrays.append (first : Betrays cs finite) (second : Betrays ds finite') :
    Betrays (cs ++ ds) (finite && finite') := by
  obtain ⟨kept, leaves, loud⟩ := first
  obtain ⟨more, leaves', loud'⟩ := second
  refine ⟨kept ++ more, leaves.append leaves', fun not => ?_⟩
  rcases (Bool.and_eq_false_iff).mp not with own | own
  · obtain ⟨c, mem, first⟩ := loud own
    exact ⟨c, List.mem_append_left _ mem, first⟩
  · obtain ⟨c, mem, first⟩ := loud' own
    exact ⟨c, List.mem_append_right _ mem, first⟩

theorem betrays_of_sober (sober : Sober cs) : Betrays cs true := by
  obtain ⟨kept, leaves, -⟩ := sober
  exact ⟨kept, leaves, nofun⟩

theorem Betrays.mark (c : Char) (plain : c ≠ '"' ∧ isLoud c = false) (rest : Betrays cs finite) :
    Betrays (c :: cs) finite := by
  have mark := betrays_of_sober (sober_plain (List.forall_mem_singleton.mpr plain))
  have both := mark.append rest
  rwa [Bool.true_and] at both

theorem Betrays.close (c : Char) (plain : c ≠ '"' ∧ isLoud c = false) (rest : Betrays cs finite) :
    Betrays (cs ++ [c]) finite := by
  have mark := betrays_of_sober (sober_plain (List.forall_mem_singleton.mpr plain))
  have both := rest.append mark
  rwa [Bool.and_true] at both

theorem Betrays.member (k : String) (value : Betrays cs finite) :
    Betrays (memberText k cs) finite := by
  have name := betrays_of_sober (sober_string (isString_stringChars k))
  have both := name.append ((value.mark ' ' (by decide)).mark ':' (by decide))
  rwa [Bool.true_and] at both

/-- The words for doubles that are not finite. -/
theorem write_of_infinite (style : FloatStyle) {x : Float} (infinite : Number.isFinite x = false) :
    (style.write x).toList = style.notANumber.toList ∨
      (style.write x).toList = signOf x ++ style.infinite.toList := by
  have none : size? x = none := by simpa [Number.isFinite] using infinite
  unfold FloatStyle.write signOf
  rw [none]
  dsimp only
  split
  · exact .inl rfl
  · right
    rw [String.toList_append, String.toList_ofList]

theorem betrays_float (x : Float) : Betrays (chars (.float x)) (Number.isFinite x) := by
  cases finite : Number.isFinite x with
  | true => exact betrays_of_sober (sober_of_grammar (grammar_chars (.float x) finite))
  | false =>
    rw [chars]
    rcases write_of_infinite documentStyle finite with text | text <;> rw [text]
    · exact ⟨_, leaves_plain (by decide), fun _ => ⟨'N', by decide, by decide⟩⟩
    · refine ⟨_, leaves_plain ?_, fun _ => ⟨'I', List.mem_append_right _ (by decide), by decide⟩⟩
      rcases signOf_cases x with sign | sign <;> rw [sign] <;> decide

mutual

/-- What is not finite in a value shows outside of the strings of its text. -/
theorem betrays_chars : ∀ v : Json, Betrays (chars v) v.isFinite
  | .null => betrays_of_sober (sober_of_grammar (grammar_chars .null rfl))
  | .bool b => betrays_of_sober (sober_of_grammar (grammar_chars (.bool b) rfl))
  | .int n => betrays_of_sober (sober_of_grammar (grammar_chars (.int n) rfl))
  | .str s => betrays_of_sober (sober_of_grammar (grammar_chars (.str s) rfl))
  | .float x => betrays_float x
  | .arr [] => betrays_of_sober (sober_of_grammar (grammar_chars (.arr []) rfl))
  | .obj [] => betrays_of_sober (sober_of_grammar (grammar_chars (.obj []) rfl))
  | .arr (v :: vs) =>
    (((betrays_chars v).append (betrays_restChars vs)).close ']' (by decide)).mark '[' (by decide)
  | .obj ((k, v) :: ms) =>
    ((((betrays_chars v).member k).append (betrays_restMembers ms)).close '\x7d' (by decide)).mark
      '\x7b' (by decide)

theorem betrays_restChars : ∀ vs : List Json, Betrays (restChars vs) (areFinite vs)
  | [] => ⟨[], fun _ => rfl, nofun⟩
  | v :: vs =>
    (((betrays_chars v).append (betrays_restChars vs)).mark ' ' (by decide)).mark ',' (by decide)

theorem betrays_restMembers : ∀ ms : Members, Betrays (restMembers ms) (haveFinite ms)
  | [] => ⟨[], fun _ => rfl, nofun⟩
  | (k, v) :: ms =>
    ((((betrays_chars v).member k).append (betrays_restMembers ms)).mark ' ' (by decide)).mark ','
      (by decide)

end

/-- The text of a value is one of the JSON standard exactly when all doubles of the value are
finite. -/
theorem standard_chars_iff (v : Json) : Standard (chars v) ↔ v.isFinite := by
  constructor
  · intro standard
    obtain ⟨kept, leaves, quiet⟩ := sober_of_grammar standard
    obtain ⟨more, leaves', loud⟩ := betrays_chars v
    obtain rfl := leaves.unique leaves'
    by_contra infinite
    obtain ⟨c, mem, first⟩ := loud (by simpa using infinite)
    rw [quiet c mem] at first
    cases first
  · exact fun finite => (grammar_chars v finite).behind isGap_nil

/-- Bytes that are a text of the JSON standard in UTF-8. -/
def StandardBytes (bytes : ByteArray) : Prop :=
  ∃ s : String, bytes = s.toUTF8 ∧ Standard s.toList

theorem standardBytes_iff (v : Json) : StandardBytes v.bytes ↔ v.isFinite := by
  rw [← standard_chars_iff]
  constructor
  · rintro ⟨s, same, standard⟩
    have text : v.text = s := String.toByteArray_inj.mp same
    rwa [← text, Json.text, String.toList_ofList] at standard
  · intro standard
    exact ⟨v.text, rfl, by rwa [Json.text, String.toList_ofList]⟩

end IndexExplorer.Json
