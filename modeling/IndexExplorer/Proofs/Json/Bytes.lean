import IndexExplorer.Json.Encoding
import IndexExplorer.Proofs.Json.RoundTrip
import IndexExplorer.Proofs.Text.Utf8

/-!
Documents as bytes.

The text of a value is printable ASCII, so that its bytes are taken for the encoding that they are
written in.

* `printable_chars`: what the text of a value is made of;
* `detect_of_ascii`: such bytes are read in the encoding that is usual;
* `ofBytes_bytes`: the bytes of a document are read as that document.
-/
namespace IndexExplorer.Json

open Number Text

/-! ## What texts are made of -/

/-- A printable character of ASCII. -/
def Printable (c : Char) : Prop := 0x20 ≤ c.toNat ∧ c.toNat < 0x7f

instance : DecidablePred Printable := fun c =>
  inferInstanceAs (Decidable (0x20 ≤ c.toNat ∧ c.toNat < 0x7f))

variable {c : Char}

theorem printable_of_mem_floatChars : ∀ c ∈ floatChars, Printable c :=
  Text.forall_mem_of_all (by decide)

theorem printable_of_mem_hex {width n : Nat} (mem : c ∈ hex width n) : Printable c := by
  have all : ∀ c ∈ digitChars, Printable c := Text.forall_mem_of_all (by decide)
  by_contra other
  exact notMem_hex (fun digit => other (all c digit)) width n mem

theorem printable_unitEscape {n : Nat} (mem : c ∈ unitEscape n) : Printable c := by
  rcases List.mem_cons.mp mem with rfl | mem
  · decide
  rcases List.mem_cons.mp mem with rfl | mem
  · decide
  · exact printable_of_mem_hex mem

theorem printable_escapeChar {d : Char} (mem : c ∈ escapeChar d) : Printable c := by
  have short : ∀ {e : Char}, Printable e → c ∈ ['\\', e] → Printable c := by
    intro e printable mem
    rcases List.mem_cons.mp mem with rfl | mem
    · decide
    · obtain rfl := List.mem_singleton.mp mem
      exact printable
  unfold escapeChar at mem
  dsimp only at mem
  split_ifs at mem with quote mark line back tab bell feed shown plane
  · exact short (by decide) mem
  · exact short (by decide) mem
  · exact short (by decide) mem
  · exact short (by decide) mem
  · exact short (by decide) mem
  · exact short (by decide) mem
  · exact short (by decide) mem
  · obtain rfl := List.mem_singleton.mp mem
    exact ⟨shown.1, by omega⟩
  · exact printable_unitEscape mem
  · rcases List.mem_append.mp mem with mem | mem
    · exact printable_unitEscape mem
    · exact printable_unitEscape mem

theorem printable_stringChars {s : String} (mem : c ∈ stringChars s) : Printable c := by
  rw [stringChars, List.mem_append, List.mem_cons, List.mem_flatMap, List.mem_singleton] at mem
  rcases mem with (rfl | ⟨d, -, mem⟩) | rfl
  · decide
  · exact printable_escapeChar mem
  · decide

theorem printable_intChars {n : Int} (mem : c ∈ intChars n) : Printable c := by
  rcases List.mem_append.mp mem with mem | mem
  · split at mem
    · obtain rfl := List.mem_singleton.mp mem
      decide
    · cases mem
  · exact printable_of_mem_floatChars c (mem_floatChars_of_mem_toDigits (by decide) mem)

theorem printable_memberText {k : String} {cs : List Char} (value : ∀ c ∈ cs, Printable c)
    (mem : c ∈ memberText k cs) : Printable c := by
  rw [memberText, List.mem_append, List.mem_cons, List.mem_cons] at mem
  rcases mem with mem | rfl | rfl | mem
  · exact printable_stringChars mem
  · decide
  · decide
  · exact value c mem

mutual

/-- The text of a value is printable ASCII. -/
theorem printable_chars : ∀ (v : Json) (c : Char), c ∈ chars v → Printable c
  | .null, c, mem => Text.forall_mem_of_all (by decide) c mem
  | .bool true, c, mem => Text.forall_mem_of_all (by decide) c mem
  | .bool false, c, mem => Text.forall_mem_of_all (by decide) c mem
  | .int _, _, mem => printable_intChars mem
  | .float _, c, mem => printable_of_mem_floatChars c (mem_write mem)
  | .str _, _, mem => printable_stringChars mem
  | .arr [], c, mem => Text.forall_mem_of_all (by decide) c mem
  | .obj [], c, mem => Text.forall_mem_of_all (by decide) c mem
  | .arr (v :: vs), c, mem => by
    rw [chars_list, List.mem_cons, List.mem_append, List.mem_append, List.mem_singleton] at mem
    rcases mem with rfl | (mem | mem) | rfl
    · decide
    · exact printable_chars v c mem
    · exact printable_restChars vs c mem
    · decide
  | .obj ((k, v) :: ms), c, mem => by
    rw [chars_object, List.mem_cons, List.mem_append, List.mem_append, List.mem_singleton] at mem
    rcases mem with rfl | (mem | mem) | rfl
    · decide
    · exact printable_memberText (printable_chars v) mem
    · exact printable_restMembers ms c mem
    · decide

/-- So are the items behind the first. -/
theorem printable_restChars : ∀ (vs : List Json) (c : Char), c ∈ restChars vs → Printable c
  | [], _, mem => absurd mem List.not_mem_nil
  | v :: vs, c, mem => by
    rw [restChars_cons, List.mem_cons, List.mem_cons, List.mem_append] at mem
    rcases mem with rfl | rfl | mem | mem
    · decide
    · decide
    · exact printable_chars v c mem
    · exact printable_restChars vs c mem

/-- So are the members behind the first. -/
theorem printable_restMembers : ∀ (ms : List (String × Json)) (c : Char), c ∈ restMembers ms →
    Printable c
  | [], _, mem => absurd mem List.not_mem_nil
  | (k, v) :: ms, c, mem => by
    rw [restMembers_cons, List.mem_cons, List.mem_cons, List.mem_append] at mem
    rcases mem with rfl | rfl | mem | mem
    · decide
    · decide
    · exact printable_memberText (printable_chars v) mem
    · exact printable_restMembers ms c mem

end

/-! ## Bytes -/

theorem toList_eq_data (bytes : ByteArray) : bytes.toList = bytes.data.toList := by
  rw [ByteArray.toList, Utf8.toList_loop, List.reverse_nil, List.nil_append, List.drop_zero]

theorem toList_toUTF8 (cs : List Char) :
    (String.ofList cs).toUTF8.toList = cs.flatMap String.utf8EncodeChar := by
  rw [toList_eq_data]
  show (String.ofList cs).toByteArray.data.toList = _
  rw [String.toByteArray_ofList]
  simp [List.utf8Encode]

/-- The one byte of a printable character. -/
theorem ascii_of_mem_utf8EncodeChar (printable : Printable c) {b : UInt8}
    (mem : b ∈ String.utf8EncodeChar c) : 0 < b.toNat ∧ b.toNat < 0x80 := by
  have numbers := Utf8.toNat_utf8EncodeChar c
  obtain ⟨low, high⟩ := printable
  rw [if_pos (by omega)] at numbers
  have own : b.toNat ∈ (String.utf8EncodeChar c).map UInt8.toNat := List.mem_map_of_mem mem
  rw [numbers, List.mem_singleton] at own
  omega

theorem ofZeros_of_ne {bs : List UInt8} (some : ∀ b ∈ bs, b ≠ 0) :
    Encoding.ofZeros bs = .utf8 := by
  unfold Encoding.ofZeros
  split
  · rename_i a b c d rest
    have first : a ≠ 0 := some a List.mem_cons_self
    have second : b ≠ 0 := some b (List.mem_cons_of_mem a List.mem_cons_self)
    rw [if_neg first, if_neg second]
  · rename_i a b
    have first : a ≠ 0 := some a List.mem_cons_self
    have second : b ≠ 0 := some b (List.mem_cons_of_mem a List.mem_cons_self)
    rw [if_neg first, if_neg second]
  · rfl

/-- Bytes of printable text are neither zero nor beyond ASCII, and are taken for UTF-8. -/
theorem detect_of_ascii {bs : List UInt8} (ascii : ∀ b ∈ bs, 0 < b.toNat ∧ b.toNat < 0x80) :
    Encoding.detect bs = (.utf8, bs) := by
  have some : ∀ b ∈ bs, b ≠ 0 := by
    rintro b mem rfl
    exact absurd (ascii 0 mem).1 (by decide)
  -- every mark has a byte that no such text has
  have outside : ∀ m ∈ Encoding.marks, ∃ b ∈ m.1, ¬ (0 < b.toNat ∧ b.toNat < 0x80) := by
    unfold Encoding.marks
    decide
  unfold Encoding.detect
  split
  · rename_i mark encoding found
    have front := List.find?_some found
    change mark.isPrefixOf bs = true at front
    obtain ⟨b, mem, out⟩ := outside _ (List.mem_of_find?_eq_some found)
    exact absurd (ascii b ((List.isPrefixOf_iff_prefix.mp front).subset mem)) out
  · rw [ofZeros_of_ne some]

theorem decode?_toUTF8 (s : String) :
    Encoding.utf8.decode? s.toUTF8.toList = some s.toList := by
  have whole : (⟨s.toUTF8.toList.toArray⟩ : ByteArray) = s.toUTF8 := by
    rw [toList_eq_data]
  have read : String.fromUTF8? s.toUTF8 = some s := by
    rw [String.fromUTF8?, String.toUTF8_eq_toByteArray, dif_pos s.isValidUTF8]
    rfl
  show (String.fromUTF8? ⟨s.toUTF8.toList.toArray⟩).map (·.toList) = _
  rw [whole, read]
  rfl

/-- The bytes of a document are read as that document, unless too many lists and objects stand
inside each other. -/
theorem ofBytes_bytes {v : Json} (writable : v.Writable) :
    ofBytes v.bytes = if v.nesting ≤ nestingLimit then .ok v else .error .tooDeep := by
  have ascii : ∀ b ∈ v.bytes.toList, 0 < b.toNat ∧ b.toNat < 0x80 := by
    intro b mem
    rw [bytes, text, toList_toUTF8, List.mem_flatMap] at mem
    obtain ⟨c, inside, mem⟩ := mem
    exact ascii_of_mem_utf8EncodeChar (printable_chars v c inside) mem
  unfold ofBytes
  rw [detect_of_ascii ascii]
  dsimp only
  rw [bytes, decode?_toUTF8, text, String.toList_ofList]
  dsimp only
  rw [parseChars_chars writable]
  by_cases fits : v.nesting ≤ nestingLimit
  · rw [if_pos fits, if_pos fits]
  · rw [if_neg fits, if_neg fits]

/-! ## Values of any depth -/

/-- Lists inside each other, `n` of them around an empty one. -/
def tower : Nat → Json
  | 0 => .arr []
  | n + 1 => .arr [tower n]

theorem nesting_tower (n : Nat) : (tower n).nesting = n + 1 := by
  induction n with
  | zero => rfl
  | succ n ih =>
    show max (tower n).nesting 0 + 1 = n + 1 + 1
    rw [ih, Nat.max_zero]

theorem writable_tower (n : Nat) : (tower n).Writable := by
  induction n with
  | zero => exact (writable_arr []).mpr nofun
  | succ n ih => exact (writable_arr _).mpr (List.forall_mem_singleton.mpr ih)

end IndexExplorer.Json
