import IndexExplorer.Proofs.Json.Numeral
import IndexExplorer.Proofs.Json.Quoted

/-!
Values that are written and read again.

The text of a value is read as that value, as long as no more lists and objects stand inside each
other than the reader allows.

* `Writable`: the values whose text says all of them, and `nesting`, how deep they are;
* `value_chars`: the text of a value is read back inside a document;
* `parse_text`: so is the text of a whole document.
-/
namespace IndexExplorer

theorem Named.alter_of_notMem {t : Named α} {name : String} (absent : name ∉ t.map (·.1))
    (f : Option α → α) : alter t name f = t ++ [(name, f none)] := by
  induction t with
  | nil => rfl
  | cons e t ih =>
    rw [List.map_cons, List.mem_cons, not_or] at absent
    rw [alter, if_neg (Ne.symm absent.1), ih absent.2, List.cons_append]

/-- Entries with different names make up the table that they are. -/
theorem Named.ofList_of_nodup {entries : List (String × α)}
    (nodup : (entries.map (·.1)).Nodup) : ofList entries = entries := by
  have all : ∀ front back : List (String × α), ((front ++ back).map (·.1)).Nodup →
      overlay front back = front ++ back := by
    intro front back
    induction back generalizing front with
    | nil => simp [overlay]
    | cons e back ih =>
      intro nodup
      have shift : front ++ e :: back = front ++ [e] ++ back := by simp
      have absent : e.1 ∉ front.map (·.1) := by
        intro mem
        rw [List.map_append, List.nodup_append] at nodup
        exact nodup.2.2 e.1 mem e.1 (List.mem_cons_self) rfl
      rw [shift] at nodup ⊢
      rw [← ih (front ++ [e]) nodup]
      show overlay (put front e.1 e.2) back = _
      rw [put, alter_of_notMem absent]
  exact all [] entries nodup

namespace Json

open Number UrlParts

/-! ## What can be written -/

/-- An integer has no more digits than are read. -/
def IsShort (n : Int) : Prop := (Nat.toDigits 10 n.natAbs).length ≤ digitLimit

mutual

/-- The text of the value says all of it: no object has a name twice, no integer has more digits
than are read, and the text of every double reads back. -/
def Writable : Json → Prop
  | .int n => IsShort n
  | .float x => ReadsBack x
  | .arr items => WritableItems items
  | .obj members => (members.map (·.1)).Nodup ∧ WritableMembers members
  | .null => True
  | .bool _ => True
  | .str _ => True

/-- All items of a list are writable. -/
def WritableItems : List Json → Prop
  | [] => True
  | v :: rest => Writable v ∧ WritableItems rest

/-- The values of all members of an object are writable. -/
def WritableMembers : List (String × Json) → Prop
  | [] => True
  | (_, v) :: rest => Writable v ∧ WritableMembers rest

end

theorem nesting_arr_le {items : List Json} {depth : Nat} (each : ∀ v ∈ items, v.nesting ≤ depth) :
    (arr items).nesting ≤ depth + 1 := by
  refine Nat.succ_le_succ ?_
  induction items with
  | nil => exact Nat.zero_le _
  | cons v rest ih =>
    rw [List.forall_mem_cons] at each
    exact Nat.max_le.mpr ⟨each.1, ih each.2⟩

theorem nesting_obj_le {members : List (String × Json)} {depth : Nat}
    (each : ∀ e ∈ members, e.2.nesting ≤ depth) : (obj members).nesting ≤ depth + 1 := by
  refine Nat.succ_le_succ ?_
  induction members with
  | nil => exact Nat.zero_le _
  | cons e rest ih =>
    rw [List.forall_mem_cons] at each
    exact Nat.max_le.mpr ⟨each.1, ih each.2⟩

theorem writable_arr (items : List Json) : (arr items).Writable ↔ ∀ v ∈ items, v.Writable := by
  show WritableItems items ↔ _
  induction items with
  | nil => exact ⟨nofun, fun _ => trivial⟩
  | cons v rest ih =>
    show v.Writable ∧ WritableItems rest ↔ _
    rw [ih, List.forall_mem_cons]

theorem writable_obj (members : List (String × Json)) :
    (obj members).Writable ↔ (members.map (·.1)).Nodup ∧ ∀ e ∈ members, e.2.Writable := by
  have values : WritableMembers members ↔ ∀ e ∈ members, e.2.Writable := by
    induction members with
    | nil => exact ⟨nofun, fun _ => trivial⟩
    | cons e rest ih =>
      show e.2.Writable ∧ WritableMembers rest ↔ _
      rw [ih, List.forall_mem_cons]
  rw [← values]
  rfl

variable {fuel room : Nat} {done : List Json} {cs rest : List Char} {c : Char} {v : Json}

/-- A text that begins like a value: with no blank, and with nothing that closes a list or an
object. -/
def Opens (cs : List Char) : Prop :=
  ∃ c tail, cs = c :: tail ∧ isGap c = false ∧ c ≠ ']' ∧ c ≠ '\x7d'

theorem Opens.append (opens : Opens cs) (rest : List Char) : Opens (cs ++ rest) := by
  obtain ⟨c, tail, rfl, plain⟩ := opens
  exact ⟨c, tail ++ rest, rfl, plain⟩

theorem Opens.skipGap_eq (opens : Opens cs) : skipGap cs = cs := by
  obtain ⟨c, tail, rfl, plain, -, -⟩ := opens
  simp [skipGap, plain]

theorem Opens.skipGap_space (opens : Opens cs) : skipGap (' ' :: cs) = cs := opens.skipGap_eq

theorem opens_of_mem_floatChars {c : Char} (mem : c ∈ floatChars) (tail : List Char) :
    Opens (c :: tail) := by
  have plain : ∀ d ∈ floatChars, isGap d = false ∧ d ≠ ']' ∧ d ≠ '\x7d' :=
    Text.forall_mem_of_all (by decide)
  exact ⟨c, tail, rfl, plain c mem⟩

/-- The text of a value begins like one. -/
theorem opens_chars (writable : v.Writable) : Opens (chars v) := by
  cases v with
  | null => exact ⟨_, _, rfl, by decide⟩
  | bool b => cases b <;> exact ⟨_, _, rfl, by decide⟩
  | str s => exact ⟨_, _, rfl, by decide⟩
  | arr items => cases items <;> exact ⟨_, _, rfl, by decide⟩
  | obj members =>
    rcases members with _ | ⟨⟨k, v⟩, rest⟩ <;> exact ⟨_, _, rfl, by decide⟩
  | int n =>
    show Opens (intChars n)
    unfold intChars
    split
    · exact ⟨_, _, rfl, by decide⟩
    · cases front : Nat.toDigits 10 n.natAbs with
      | nil => exact absurd front Nat.toDigits_ne_nil
      | cons c tail =>
        have mem : c ∈ Nat.toDigits 10 n.natAbs := front ▸ List.mem_cons_self
        exact opens_of_mem_floatChars (mem_floatChars_of_mem_toDigits (by decide) mem) tail
  | float x =>
    show Opens (documentStyle.write x).toList
    cases front : (documentStyle.write x).toList with
    | nil =>
      have back : parse (documentStyle.write x) = .ok (.float x) := writable
      rw [parse, front] at back
      cases back
    | cons c tail => exact opens_of_mem_floatChars (mem_write (front ▸ List.mem_cons_self)) tail

/-! ## Lists and objects -/

theorem value_full (open_mark : c = '[' ∨ c = '\x7b') (fuel : Nat) (rest : List Char) :
    value (fuel + 1) 0 (c :: rest) = .error .tooDeep := by
  rcases open_mark with rfl | rfl <;> unfold value <;> simp only [Char.reduceEq, ↓reduceIte]

theorem value_emptyList (fuel room : Nat) (rest : List Char) :
    value (fuel + 1) (room + 1) ('[' :: ']' :: rest) = .ok (.arr [], rest) := by
  unfold value
  simp [skipGap, isGap]

theorem value_emptyObject (fuel room : Nat) (rest : List Char) :
    value (fuel + 1) (room + 1) ('\x7b' :: '\x7d' :: rest) = .ok (.obj [], rest) := by
  unfold value
  simp [skipGap, isGap]

theorem value_list (opens : Opens cs) (fuel room : Nat) :
    value (fuel + 1) (room + 1) ('[' :: cs) =
      match items fuel room [] cs with
      | .ok (vs, rest) => .ok (.arr vs.reverse, rest)
      | .error e => .error e := by
  unfold value
  simp only [Char.reduceEq, ↓reduceIte, opens.skipGap_eq, Nat.add_one_ne_zero, Nat.add_sub_cancel]
  obtain ⟨c, tail, rfl, -, other, -⟩ := opens
  split
  · rename_i e
    exact absurd (List.cons.inj e).1 other
  · rfl

theorem value_object (opens : Opens cs) (fuel room : Nat) :
    value (fuel + 1) (room + 1) ('\x7b' :: cs) =
      match members fuel room [] cs with
      | .ok (ms, rest) => .ok (.obj (Named.ofList ms.reverse), rest)
      | .error e => .error e := by
  unfold value
  simp only [Char.reduceEq, ↓reduceIte, opens.skipGap_eq, Nat.add_one_ne_zero, Nat.add_sub_cancel]
  obtain ⟨c, tail, rfl, -, -, other⟩ := opens
  split
  · rename_i e
    exact absurd (List.cons.inj e).1 other
  · rfl

theorem items_last (read : value fuel room cs = .ok (v, ']' :: rest)) :
    items (fuel + 1) room done cs = .ok (v :: done, rest) := by
  unfold items
  rw [read]
  rfl

theorem items_next (opens : Opens rest) (read : value fuel room cs = .ok (v, ',' :: ' ' :: rest)) :
    items (fuel + 1) room done cs = items fuel room (v :: done) rest := by
  conv_lhs => unfold items
  rw [read]
  show items fuel room (v :: done) (skipGap (' ' :: rest)) = _
  rw [opens.skipGap_space]

theorem items_error {e : ReadFault} (read : value fuel room cs = .error e) :
    items (fuel + 1) room done cs = .error e := by
  unfold items
  rw [read]

/-- The text of a member, with what follows it. -/
def memberText (k : String) (cs : List Char) : List Char := stringChars k ++ ':' :: ' ' :: cs

variable {found : List (String × Json)} {k : String}

/-- The name of a member is read, and then its value. -/
theorem members_succ (opens : Opens cs) (fuel room : Nat) (found : List (String × Json)) :
    members (fuel + 1) room found (memberText k cs) =
      match value fuel room cs with
      | .error e => .error e
      | .ok (v, rest) =>
        match skipGap rest with
        | ',' :: rest => members fuel room ((k, v) :: found) (skipGap rest)
        | '\x7d' :: rest => .ok ((k, v) :: found, rest)
        | _ => .error .malformed := by
  have text : memberText k cs =
      '"' :: (k.toList.flatMap escapeChar ++ '"' :: ':' :: ' ' :: cs) := by
    simp [memberText, stringChars]
  have behind : value fuel room cs = value fuel room (skipGap (' ' :: cs)) := by
    rw [opens.skipGap_space]
  rw [text, behind]
  conv_lhs => unfold members
  simp only [stringRest_quoted]
  rfl

theorem members_last (opens : Opens cs) (read : value fuel room cs = .ok (v, '\x7d' :: rest)) :
    members (fuel + 1) room found (memberText k cs) = .ok ((k, v) :: found, rest) := by
  rw [members_succ opens, read]
  rfl

theorem members_next {more : List Char} (opens : Opens cs) (behind : Opens more)
    (read : value fuel room cs = .ok (v, ',' :: ' ' :: more)) :
    members (fuel + 1) room found (memberText k cs) =
      members fuel room ((k, v) :: found) more := by
  rw [members_succ opens, read]
  show members fuel room ((k, v) :: found) (skipGap (' ' :: more)) = _
  rw [behind.skipGap_space]

theorem members_error {e : ReadFault} (opens : Opens cs) (read : value fuel room cs = .error e) :
    members (fuel + 1) room found (memberText k cs) = .error e := by
  rw [members_succ opens, read]

theorem opens_memberText (k : String) (cs : List Char) : Opens (memberText k cs) :=
  ⟨_, _, rfl, by decide⟩

/-! ## Values -/

theorem chars_list (v : Json) (vs : List Json) :
    chars (.arr (v :: vs)) = '[' :: (chars v ++ restChars vs ++ [']']) := rfl

theorem chars_object (k : String) (v : Json) (ms : List (String × Json)) :
    chars (.obj ((k, v) :: ms)) =
      '\x7b' :: (memberText k (chars v) ++ restMembers ms ++ ['\x7d']) := rfl

theorem restChars_cons (v : Json) (vs : List Json) :
    restChars (v :: vs) = ',' :: ' ' :: (chars v ++ restChars vs) := rfl

theorem restMembers_cons (k : String) (v : Json) (ms : List (String × Json)) :
    restMembers ((k, v) :: ms) = ',' :: ' ' :: (memberText k (chars v) ++ restMembers ms) := rfl

theorem memberText_append (k : String) (cs rest : List Char) :
    memberText k cs ++ rest = memberText k (cs ++ rest) := by
  simp [memberText]

theorem length_le_memberText (k : String) (cs : List Char) :
    cs.length ≤ (memberText k cs).length := by
  simp [memberText]
  omega

theorem value_word {word : String} {v : Json} (text : chars v = word.toList) (flat : v.nesting = 0)
    (known : (word, v) ∈ [("null", .null), ("true", .bool true), ("false", .bool false)])
    (fuel room : Nat) (rest : List Char) :
    value (fuel + 1) room (chars v ++ rest) =
      if v.nesting ≤ room then .ok (v, rest) else .error .tooDeep := by
  rw [if_pos (by omega), text, ← wordValue_append word v rest]
  simp only [List.mem_cons, Prod.mk.injEq, List.not_mem_nil, or_false] at known
  rcases known with ⟨rfl, rfl⟩ | ⟨rfl, rfl⟩ | ⟨rfl, rfl⟩ <;> rfl

mutual

/-- The text of a value is read as that value, unless too many lists and objects stand inside each
other. -/
theorem value_chars : ∀ (v : Json) (fuel room : Nat) (rest : List Char), v.Writable →
    Stops endsValue rest → (chars v).length < fuel →
    value fuel room (chars v ++ rest) =
      if v.nesting ≤ room then .ok (v, rest) else .error .tooDeep
  | v, 0, _, _, _, _, enough => absurd enough (Nat.not_lt_zero _)
  | .null, fuel + 1, room, rest, _, _, _ =>
    value_word rfl rfl (by simp) fuel room rest
  | .bool true, fuel + 1, room, rest, _, _, _ =>
    value_word rfl rfl (by simp) fuel room rest
  | .bool false, fuel + 1, room, rest, _, _, _ =>
    value_word rfl rfl (by simp) fuel room rest
  | .int n, fuel + 1, room, rest, fits, stops, _ => by
    rw [value_int stops fits, if_pos (show nesting (.int n) ≤ room from Nat.zero_le room)]
  | .float x, fuel + 1, room, rest, back, stops, _ => by
    rw [value_float stops back, if_pos (show nesting (.float x) ≤ room from Nat.zero_le room)]
  | .str s, fuel + 1, room, rest, _, _, _ => by
    rw [if_pos (show nesting (.str s) ≤ room from Nat.zero_le room)]
    exact value_str s rest fuel room
  | .arr items, fuel + 1, 0, rest, _, _, _ => by
    rw [if_neg (show ¬ nesting (.arr items) ≤ 0 from Nat.not_succ_le_zero _)]
    cases items <;> exact value_full (.inl rfl) fuel _
  | .obj members, fuel + 1, 0, rest, _, _, _ => by
    rw [if_neg (show ¬ nesting (.obj members) ≤ 0 from Nat.not_succ_le_zero _)]
    rcases members with _ | ⟨⟨k, v⟩, ms⟩ <;> exact value_full (.inr rfl) fuel _
  | .arr [], fuel + 1, room + 1, rest, _, _, _ => by
    rw [if_pos (show nesting (.arr []) ≤ room + 1 from Nat.succ_le_succ (Nat.zero_le room))]
    exact value_emptyList fuel room rest
  | .obj [], fuel + 1, room + 1, rest, _, _, _ => by
    rw [if_pos (show nesting (.obj []) ≤ room + 1 from Nat.succ_le_succ (Nat.zero_le room))]
    exact value_emptyObject fuel room rest
  | .arr (v :: vs), fuel + 1, room + 1, rest, ⟨writable, others⟩, _, enough => by
    have text : chars (.arr (v :: vs)) ++ rest =
        '[' :: (chars v ++ (restChars vs ++ ']' :: rest)) := by
      simp [chars_list]
    have long : (chars (.arr (v :: vs))).length =
        (chars v).length + (restChars vs).length + 2 := by
      simp [chars_list]
      omega
    rw [text, value_list ((opens_chars writable).append _),
      items_chars v vs fuel room [] rest writable others (by omega)]
    show _ = if max v.nesting (nestingOfItems vs) + 1 ≤ room + 1 then _ else _
    by_cases fits : max v.nesting (nestingOfItems vs) ≤ room
    · rw [if_pos fits, if_pos (Nat.succ_le_succ fits)]
      simp
    · rw [if_neg fits, if_neg (by omega)]
  | .obj ((k, v) :: ms), fuel + 1, room + 1, rest, ⟨nodup, writable, others⟩, _, enough => by
    have text : chars (.obj ((k, v) :: ms)) ++ rest =
        '\x7b' :: memberText k (chars v ++ (restMembers ms ++ '\x7d' :: rest)) := by
      simp [chars_object, memberText_append]
    have inside := length_le_memberText k (chars v)
    have long : (chars v).length + (restMembers ms).length + 2 ≤
        (chars (.obj ((k, v) :: ms))).length := by
      simp [chars_object]
      omega
    rw [text, value_object (opens_memberText k _),
      members_chars k v ms fuel room [] rest writable others (by omega)]
    show _ = if max v.nesting (nestingOfMembers ms) + 1 ≤ room + 1 then _ else _
    by_cases fits : max v.nesting (nestingOfMembers ms) ≤ room
    · rw [if_pos fits, if_pos (Nat.succ_le_succ fits)]
      have order : (ms.reverse ++ [(k, v)]).reverse = (k, v) :: ms := by simp
      simp only [order, Named.ofList_of_nodup nodup]
    · rw [if_neg fits, if_neg (by omega)]

/-- So are the items of a list, up to its closing bracket. -/
theorem items_chars : ∀ (v : Json) (vs : List Json) (fuel room : Nat) (done : List Json)
    (rest : List Char), v.Writable → WritableItems vs →
    (chars v).length + (restChars vs).length + 1 < fuel →
    items fuel room done (chars v ++ (restChars vs ++ ']' :: rest)) =
      if max v.nesting (nestingOfItems vs) ≤ room then .ok (vs.reverse ++ v :: done, rest)
      else .error .tooDeep
  | _, _, 0, _, _, _, _, _, enough => absurd enough (Nat.not_lt_zero _)
  | v, [], fuel + 1, room, done, rest, writable, _, enough => by
    have read := value_chars v fuel room (']' :: rest) writable (stops_cons (by rfl) rest) (by omega)
    show items (fuel + 1) room done (chars v ++ ']' :: rest) =
      if max v.nesting 0 ≤ room then .ok (v :: done, rest) else .error .tooDeep
    rw [Nat.max_zero]
    by_cases fits : v.nesting ≤ room
    · rw [if_pos fits] at read ⊢
      exact items_last read
    · rw [if_neg fits] at read ⊢
      exact items_error read
  | v, w :: ws, fuel + 1, room, done, rest, writable, ⟨next, others⟩, enough => by
    have text : restChars (w :: ws) ++ ']' :: rest =
        ',' :: ' ' :: (chars w ++ (restChars ws ++ ']' :: rest)) := by
      simp [restChars_cons]
    have long : (restChars (w :: ws)).length = (chars w).length + (restChars ws).length + 2 := by
      simp [restChars_cons]
    have read := value_chars v fuel room (restChars (w :: ws) ++ ']' :: rest) writable
      (by rw [text]; exact stops_cons (by rfl) _) (by omega)
    show _ = if max v.nesting (max w.nesting (nestingOfItems ws)) ≤ room then _ else _
    by_cases fits : v.nesting ≤ room
    · rw [if_pos fits, text] at read
      rw [text, items_next ((opens_chars next).append _) read,
        items_chars w ws fuel room (v :: done) rest next others (by omega)]
      by_cases behind : max w.nesting (nestingOfItems ws) ≤ room
      · rw [if_pos behind, if_pos (Nat.max_le.mpr ⟨fits, behind⟩)]
        simp
      · rw [if_neg behind, if_neg (by omega)]
    · rw [if_neg fits] at read
      rw [items_error read, if_neg (by omega)]

/-- So are the members of an object, up to its closing brace. -/
theorem members_chars : ∀ (k : String) (v : Json) (ms : List (String × Json)) (fuel room : Nat)
    (found : List (String × Json)) (rest : List Char), v.Writable → WritableMembers ms →
    (chars v).length + (restMembers ms).length + 1 < fuel →
    members fuel room found (memberText k (chars v ++ (restMembers ms ++ '\x7d' :: rest))) =
      if max v.nesting (nestingOfMembers ms) ≤ room then .ok (ms.reverse ++ (k, v) :: found, rest)
      else .error .tooDeep
  | _, _, _, 0, _, _, _, _, _, enough => absurd enough (Nat.not_lt_zero _)
  | k, v, [], fuel + 1, room, found, rest, writable, _, enough => by
    have read := value_chars v fuel room ('\x7d' :: rest) writable (stops_cons (by rfl) rest)
      (by omega)
    have opens := (opens_chars writable).append ('\x7d' :: rest)
    show members (fuel + 1) room found (memberText k (chars v ++ '\x7d' :: rest)) =
      if max v.nesting 0 ≤ room then .ok ((k, v) :: found, rest) else .error .tooDeep
    rw [Nat.max_zero]
    by_cases fits : v.nesting ≤ room
    · rw [if_pos fits] at read ⊢
      exact members_last opens read
    · rw [if_neg fits] at read ⊢
      exact members_error opens read
  | k, v, (l, w) :: ms, fuel + 1, room, found, rest, writable, ⟨next, others⟩, enough => by
    have text : restMembers ((l, w) :: ms) ++ '\x7d' :: rest =
        ',' :: ' ' :: memberText l (chars w ++ (restMembers ms ++ '\x7d' :: rest)) := by
      simp [restMembers_cons, memberText_append]
    have inside := length_le_memberText l (chars w)
    have long : (chars w).length + (restMembers ms).length + 2 ≤
        (restMembers ((l, w) :: ms)).length := by
      simp [restMembers_cons]
      omega
    have read := value_chars v fuel room (restMembers ((l, w) :: ms) ++ '\x7d' :: rest) writable
      (by rw [text]; exact stops_cons (by rfl) _) (by omega)
    have opens := (opens_chars writable).append (restMembers ((l, w) :: ms) ++ '\x7d' :: rest)
    show _ = if max v.nesting (max w.nesting (nestingOfMembers ms)) ≤ room then _ else _
    by_cases fits : v.nesting ≤ room
    · rw [if_pos fits, text] at read
      rw [text] at opens ⊢
      rw [members_next opens (opens_memberText l _) read,
        members_chars l w ms fuel room ((k, v) :: found) rest next others (by omega)]
      by_cases behind : max w.nesting (nestingOfMembers ms) ≤ room
      · rw [if_pos behind, if_pos (Nat.max_le.mpr ⟨fits, behind⟩)]
        simp
      · rw [if_neg behind, if_neg (by omega)]
    · rw [if_neg fits] at read
      rw [members_error opens read, if_neg (by omega)]

end

/-- The text of a document is read as that document. -/
theorem parseChars_chars (writable : v.Writable) :
    parseChars (chars v) = if v.nesting ≤ nestingLimit then .ok v else .error .tooDeep := by
  have read := value_chars v (2 * (chars v).length + 2) nestingLimit [] writable nofun (by omega)
  rw [List.append_nil] at read
  unfold parseChars
  rw [(opens_chars writable).skipGap_eq, read]
  by_cases fits : v.nesting ≤ nestingLimit
  · rw [if_pos fits, if_pos fits]
    rfl
  · rw [if_neg fits, if_neg fits]

theorem parse_text (writable : v.Writable) :
    parse v.text = if v.nesting ≤ nestingLimit then .ok v else .error .tooDeep := by
  rw [parse, text, String.toList_ofList, parseChars_chars writable]

end Json

end IndexExplorer
