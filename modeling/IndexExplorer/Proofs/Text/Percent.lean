import IndexExplorer.Proofs.Text.Utf8
import IndexExplorer.Text.Blank
import IndexExplorer.Text.Percent
import Mathlib.Data.List.Infix
import Mathlib.Data.List.TakeWhile

/-!
What percent-encoding leaves as it is, and what is decoded again.

* `encoded_encode`, `Encoded.notMem`: a character that has to be encoded does not stand in the
  encoded text;
* `decode_encode`: a text without escapes is decoded from its encoding, also when percent signs are
  kept;
* `length_decode_encode`: a text with escapes is longer than what its encoding is decoded to;
* `dropEndWhile_flatMap`, `suffix_flatMap_iff`: a text whose characters are written one by one, each
  as itself or behind a percent sign, ends with as many points and with the same plain text.
-/
namespace IndexExplorer.Text

/-- What holds of the characters of a given text can be computed. -/
theorem forall_mem_of_all {p : Char → Prop} [DecidablePred p] {cs : List Char}
    (h : cs.all (fun c => decide (p c)) = true) : ∀ c ∈ cs, p c := by
  intro c mem
  exact of_decide_eq_true (List.all_eq_true.mp h c mem)

namespace Percent

/-- The characters that encoding puts into a text. -/
def marks : List Char := "%0123456789ABCDEF".toList

/-- A character as it is written when a text is encoded. -/
def written (keep : Char → Bool) (c : Char) : List Char := if keep c then [c] else ofChar c

variable {keep : Char → Bool} {c : Char}

theorem toList_encode (keep : Char → Bool) (s : String) :
    (encode keep s).toList = s.toList.flatMap (written keep) := by
  rw [encode, String.toList_ofList]
  rfl

theorem flatMap_of_kept {cs : List Char} (kept : ∀ c ∈ cs, keep c) :
    cs.flatMap (written keep) = cs := by
  induction cs with
  | nil => rfl
  | cons c cs ih =>
    have first : written keep c = [c] := by simp [written, kept c List.mem_cons_self]
    rw [List.flatMap_cons, first, ih fun d mem => kept d (List.mem_cons_of_mem c mem)]
    rfl

theorem digit_mem_marks {n : Nat} (h : n < 16) : digit n ∈ marks := by
  have all : ∀ n : Fin 16, digit n.val ∈ marks := by decide
  exact all ⟨n, h⟩

theorem mem_marks_of_mem_ofByte {b : UInt8} (mem : c ∈ ofByte b) : c ∈ marks := by
  have byte := b.toNat_lt
  rcases List.mem_cons.mp mem with rfl | mem
  · decide
  rcases List.mem_cons.mp mem with rfl | mem
  · exact digit_mem_marks (by omega)
  rcases List.mem_cons.mp mem with rfl | mem
  · exact digit_mem_marks (by omega)
  · cases mem

/-- An encoded character is a percent sign with marks behind it. -/
theorem ofChar_eq_cons (c : Char) : ∃ tail, ofChar c = '%' :: tail ∧ ∀ d ∈ tail, d ∈ marks := by
  have all : ∀ d ∈ ofChar c, d ∈ marks := by
    intro d mem
    obtain ⟨b, -, mem⟩ := List.mem_flatMap.mp mem
    exact mem_marks_of_mem_ofByte mem
  cases bytes : String.utf8EncodeChar c with
  | nil =>
    have some : 0 < (String.utf8EncodeChar c).length := by
      rw [String.length_utf8EncodeChar]
      exact c.utf8Size_pos
    simp [bytes] at some
  | cons b bs =>
    have shape : ofChar c =
        '%' :: ([digit (b.toNat / 16), digit (b.toNat % 16)] ++ bs.flatMap ofByte) := by
      simp [ofChar, bytes, ofByte]
    refine ⟨_, shape, fun d mem => all d ?_⟩
    rw [shape]
    exact List.mem_cons_of_mem _ mem

theorem mem_encode {s : String} (mem : c ∈ (encode keep s).toList) :
    (c ∈ s.toList ∧ keep c) ∨ c ∈ marks := by
  rw [toList_encode] at mem
  obtain ⟨d, mem_d, mem⟩ := List.mem_flatMap.mp mem
  unfold written at mem
  split at mem
  · rename_i kept
    obtain rfl := List.mem_singleton.mp mem
    exact .inl ⟨mem_d, kept⟩
  · obtain ⟨tail, shape, all⟩ := ofChar_eq_cons d
    rw [shape] at mem
    rcases List.mem_cons.mp mem with rfl | mem
    · exact .inr (by decide)
    · exact .inr (all c mem)

/-- The text has marks, and else only characters that need no encoding. -/
def Encoded (keep : Char → Bool) (cs : List Char) : Prop := ∀ c ∈ cs, keep c ∨ c ∈ marks

theorem encoded_encode (keep : Char → Bool) (s : String) : Encoded keep (encode keep s).toList := by
  intro c mem
  rcases mem_encode mem with ⟨-, kept⟩ | mark
  · exact .inl kept
  · exact .inr mark

/-- A character that has to be encoded, and that no encoding has, is not there afterwards. -/
theorem Encoded.notMem {cs : List Char} (encoded : Encoded keep cs) (lost : keep c = false)
    (plain : c ∉ marks) : c ∉ cs := by
  intro mem
  rcases encoded c mem with kept | mark
  · rw [lost] at kept
    cases kept
  · exact plain mark

theorem head?_encode {s : String} (kept : keep c) (head : s.toList.head? = some c) :
    (encode keep s).toList.head? = some c := by
  rw [toList_encode]
  cases cs : s.toList with
  | nil => simp [cs] at head
  | cons d rest =>
    obtain rfl : d = c := by simpa [cs] using head
    simp [written, kept]

/-! ### Texts without escapes -/

/-- Two hexadecimal digits are in front. -/
def leadsDigits : List Char → Bool
  | a :: b :: _ => (value? a).isSome && (value? b).isSome
  | _ => false

/-- Some percent sign has two hexadecimal digits behind it. -/
def hasEscape : List Char → Bool
  | [] => false
  | c :: rest => c = '%' && leadsDigits rest || hasEscape rest

/-- A percent sign without two digits behind it stands for itself. -/
theorem bytesOf_percent {cs : List Char} (plain : leadsDigits cs = false) :
    bytesOf ('%' :: cs) = String.utf8EncodeChar '%' ++ bytesOf cs := by
  match cs with
  | [] => rfl
  | [a] => rfl
  | a :: b :: rest =>
    simp only [bytesOf]
    split
    · rename_i x y first second
      simp [leadsDigits, first, second] at plain
    · rfl

theorem written_eq (keep : Char → Bool) (c : Char) :
    written keep c = [c] ∨ ∃ tail, written keep c = '%' :: tail := by
  unfold written
  split
  · exact .inl rfl
  · obtain ⟨tail, shape, -⟩ := ofChar_eq_cons c
    exact .inr ⟨tail, shape⟩

/-- Encoding puts no two digits in front that were not there: what is encoded begins with a percent
sign, which is no digit. -/
theorem leadsDigits_flatMap {cs : List Char} (plain : leadsDigits cs = false) :
    leadsDigits (cs.flatMap (written keep)) = false := by
  have percent : value? '%' = none := by decide
  match cs with
  | [] => rfl
  | [a] =>
    rcases written_eq keep a with first | ⟨tail, first⟩
    · rw [List.flatMap_singleton, first]
      rfl
    · rw [List.flatMap_singleton, first]
      cases tail <;> simp [leadsDigits, percent]
  | a :: b :: rest =>
    rw [List.flatMap_cons, List.flatMap_cons]
    rcases written_eq keep a with first | ⟨tail, first⟩
    · rcases written_eq keep b with second | ⟨tail, second⟩
      · rw [first, second]
        exact plain
      · rw [first, second]
        simp [leadsDigits, percent]
    · rw [first, List.cons_append]
      generalize tail ++ _ = behind
      cases behind <;> simp [leadsDigits, percent]

/-- A character with no escape begun at it stands for its own bytes, whether it is kept or not. -/
theorem bytesOf_written {cs : List Char} (plain : c = '%' → leadsDigits cs = false) :
    bytesOf (written keep c ++ cs.flatMap (written keep)) =
      String.utf8EncodeChar c ++ bytesOf (cs.flatMap (written keep)) := by
  by_cases kept : keep c
  · simp only [written, kept, ↓reduceIte, List.singleton_append]
    by_cases sign : c = '%'
    · subst sign
      exact bytesOf_percent (leadsDigits_flatMap (plain rfl))
    · exact bytesOf_cons sign _
  · simp only [written, kept, Bool.false_eq_true, ↓reduceIte, bytesOf_ofChar]

theorem hasEscape_cons {cs : List Char} (plain : c = '%' → leadsDigits cs = false) :
    hasEscape (c :: cs) = hasEscape cs := by
  rw [hasEscape, Bool.or_eq_right_iff_imp]
  intro escape
  simp only [Bool.and_eq_true, decide_eq_true_eq] at escape
  rw [plain escape.1] at escape
  cases escape.2

theorem bytesOf_flatMap {cs : List Char} (plain : hasEscape cs = false) :
    bytesOf (cs.flatMap (written keep)) = cs.flatMap String.utf8EncodeChar := by
  induction cs with
  | nil => simp [bytesOf]
  | cons c cs ih =>
    have none : c = '%' → leadsDigits cs = false := by
      rintro rfl
      simpa [hasEscape] using (Bool.or_eq_false_iff.mp plain).1
    rw [hasEscape_cons none] at plain
    rw [List.flatMap_cons, List.flatMap_cons, bytesOf_written none, ih plain]

/-- A text without escapes is decoded from its encoding. -/
theorem decode_encode (keep : Char → Bool) {s : String} (plain : hasEscape s.toList = false) :
    decode (encode keep s) = s := by
  rw [decode, toList_encode, bytesOf_flatMap plain, Utf8.decode_utf8, String.ofList_toList]

theorem bytesOf_escape {a b : Char} {x y : Nat} (first : value? a = some x)
    (second : value? b = some y) (cs : List Char) :
    bytesOf ('%' :: a :: b :: cs) = UInt8.ofNat (16 * x + y) :: bytesOf cs := by
  simp [bytesOf, first, second]

/-- In a state of the decoder, a text whose characters are kept or encoded is decoded to no more
characters than it has, and to fewer when it has an escape. -/
def Shrinks (keep : Char → Bool) (s : Utf8.State) (cs : List Char) : Prop :=
  let decoded := (Utf8.units s (bytesOf (cs.flatMap (written keep)))).length
  decoded ≤ Utf8.pending s + cs.length ∧ (hasEscape cs → decoded < Utf8.pending s + cs.length)

theorem shrinks_cons {s : Utf8.State} {cs : List Char} (sound : Utf8.Sound s)
    (plain : c = '%' → leadsDigits cs = false) (rest : Shrinks keep .ready cs) :
    Shrinks keep s (c :: cs) := by
  have ready : Utf8.pending .ready = 0 := rfl
  simp only [Shrinks, ready] at rest
  simp only [Shrinks, hasEscape_cons plain, List.flatMap_cons, bytesOf_written plain,
    Utf8.length_units_utf8EncodeChar sound, List.length_cons]
  refine ⟨by omega, fun escape => ?_⟩
  have fewer := rest.2 escape
  omega

/-- An escape is three characters that stand for at most one. -/
theorem shrinks_escape {s : Utf8.State} {a b : Char} {x y : Nat} {cs : List Char}
    (first : value? a = some x) (second : value? b = some y) (sign : keep '%')
    (digits : ∀ c, (value? c).isSome → keep c)
    (rest : Shrinks keep (Utf8.step s (UInt8.ofNat (16 * x + y)).toNat).2 cs) :
    Shrinks keep s ('%' :: a :: b :: cs) := by
  have kept_a : keep a := digits a (by simp [first])
  have kept_b : keep b := digits b (by simp [second])
  have bytes : bytesOf (('%' :: a :: b :: cs).flatMap (written keep)) =
      UInt8.ofNat (16 * x + y) :: bytesOf (cs.flatMap (written keep)) := by
    simp only [List.flatMap_cons, written, sign, kept_a, kept_b, ↓reduceIte, List.cons_append,
      List.nil_append, bytesOf_escape first second]
  have takes : Utf8.step s (UInt8.ofNat (16 * x + y)).toNat =
      ((Utf8.step s (UInt8.ofNat (16 * x + y)).toNat).1,
        (Utf8.step s (UInt8.ofNat (16 * x + y)).toNat).2) := rfl
  have one := Utf8.length_step s (UInt8.ofNat (16 * x + y)).toNat
  have fewer : (Utf8.units s (bytesOf (('%' :: a :: b :: cs).flatMap (written keep)))).length <
      Utf8.pending s + ('%' :: a :: b :: cs).length := by
    rw [bytes, Utf8.units_cons takes, List.length_append]
    have most := rest.1
    simp only [List.length_cons]
    omega
  exact ⟨Nat.le_of_lt fewer, fun _ => fewer⟩

theorem shrinks {s : Utf8.State} (sound : Utf8.Sound s) (sign : keep '%')
    (digits : ∀ c, (value? c).isSome → keep c) (cs : List Char) : Shrinks keep s cs := by
  induction cs using bytesOf.induct generalizing s with
  | case1 => cases s <;> simp [Shrinks, bytesOf, Utf8.units, Utf8.pending, hasEscape]
  | case2 a b rest x y second first ih =>
    exact shrinks_escape first second sign digits (ih (Utf8.sound_step sound _))
  | case3 a b rest other ih =>
    refine shrinks_cons sound (fun _ => ?_) (ih trivial)
    cases first : value? a with
    | none => simp [leadsDigits, first]
    | some x =>
      cases second : value? b with
      | none => simp [leadsDigits, second]
      | some y => exact (other x y first second).elim
  | case4 c rest other ih =>
    refine shrinks_cons sound (fun e => ?_) (ih trivial)
    cases rest with
    | nil => rfl
    | cons a rest =>
      cases rest with
      | nil => rfl
      | cons b rest => exact (other a b rest e rfl).elim

/-- What the encoding of a text is decoded to is no longer than the text, and shorter when the text
has escapes. -/
theorem length_decode_encode {s : String} (sign : keep '%')
    (digits : ∀ c, (value? c).isSome → keep c) {t : String}
    (decoded : decode (encode keep s) = t) :
    t.length ≤ s.length ∧ (hasEscape s.toList → t.length < s.length) := by
  have shorter := shrinks (s := .ready) trivial sign digits s.toList
  have length : t.length =
      (Utf8.units .ready (bytesOf (s.toList.flatMap (written keep)))).length := by
    rw [← decoded, decode, toList_encode, Utf8.length_decode]
  have ready : Utf8.pending .ready = 0 := rfl
  simpa [Shrinks, ready, length, ← String.length_toList] using shorter

end Percent

/-! ## The end of a text -/

theorem dropWhile_eq_self {p : Char → Bool} {cs : List Char}
    (head : ∀ c, cs.head? = some c → p c = false) : cs.dropWhile p = cs := by
  cases cs with
  | nil => rfl
  | cons c cs => exact List.dropWhile_cons_of_neg (by simp [head c rfl])

theorem dropEndWhile_eq_self {p : Char → Bool} {cs : List Char}
    (last : ∀ c, cs.getLast? = some c → p c = false) : dropEndWhile p cs = cs := by
  have head : cs.reverse.dropWhile p = cs.reverse := dropWhile_eq_self (by simpa using last)
  rw [dropEndWhile, head, List.reverse_reverse]

theorem trimWhile_of_forall {p : Char → Bool} {cs : List Char} (none : ∀ c ∈ cs, p c = false) :
    cs.dropWhile p = cs ∧ trimWhile p cs = cs := by
  have front : cs.dropWhile p = cs :=
    dropWhile_eq_self fun c head => none c (List.mem_of_mem_head? head)
  refine ⟨front, ?_⟩
  rw [trimWhile, front]
  exact dropEndWhile_eq_self fun c last => none c (List.mem_of_getLast? last)

/-- What is dropped at the end has the property. -/
theorem exists_dropEndWhile (p : Char → Bool) (cs : List Char) :
    ∃ run, cs = dropEndWhile p cs ++ run ∧ ∀ c ∈ run, p c := by
  refine ⟨(cs.reverse.takeWhile p).reverse, ?_, ?_⟩
  · rw [dropEndWhile, ← List.reverse_append, List.takeWhile_append_dropWhile, List.reverse_reverse]
  · intro c mem
    exact List.mem_takeWhile_imp (List.mem_reverse.mp mem)

theorem dropEndWhile_append_of_forall {p : Char → Bool} {cs tail : List Char}
    (all : ∀ c ∈ tail, p c) : dropEndWhile p (cs ++ tail) = dropEndWhile p cs := by
  rw [dropEndWhile, List.reverse_append, List.dropWhile_append_of_pos (by simpa using all)]
  rfl

theorem dropEndWhile_append_of_not {p : Char → Bool} {c : Char} {tail : List Char} {cs : List Char}
    (last : tail.getLast? = some c) (other : p c = false) :
    dropEndWhile p (cs ++ tail) = cs ++ tail := by
  refine dropEndWhile_eq_self fun d ends => ?_
  rw [List.getLast?_append, last] at ends
  obtain rfl : c = d := by simpa using ends
  exact other

/-- Characters are written as themselves or behind a percent sign, without a point. -/
def Spares (write : Char → List Char) : Prop :=
  ∀ c, write c = [c] ∨ ∃ tail, write c = '%' :: tail ∧ '.' ∉ tail

variable {write : Char → List Char}

theorem getLast?_of_spares (spares : Spares write) {c : Char} (other : c ≠ '.') :
    ∃ d, (write c).getLast? = some d ∧ d ≠ '.' := by
  rcases spares c with e | ⟨tail, e, plain⟩
  · exact ⟨c, by rw [e]; rfl, other⟩
  · refine ⟨_, by rw [e]; exact List.getLast?_eq_some_getLast (List.cons_ne_nil _ _), ?_⟩
    intro point
    have mem := List.getLast_mem (List.cons_ne_nil '%' tail)
    rw [point] at mem
    rcases List.mem_cons.mp mem with e | mem
    · cases e
    · exact plain mem

theorem dropEndWhile_flatMap (spares : Spares write) (point : write '.' = ['.'])
    (cs : List Char) :
    dropEndWhile (· = '.') (cs.flatMap write) = (dropEndWhile (· = '.') cs).flatMap write := by
  induction cs using List.reverseRecOn with
  | nil => rfl
  | append_singleton cs c ih =>
    rw [List.flatMap_append, List.flatMap_singleton]
    by_cases h : c = '.'
    · subst h
      have pointed : ∀ d ∈ ['.'], decide (d = '.') := by simp
      rw [point, dropEndWhile_append_of_forall pointed, dropEndWhile_append_of_forall pointed, ih]
    · obtain ⟨d, last, other⟩ := getLast?_of_spares spares h
      rw [dropEndWhile_append_of_not last (by simpa using other),
        dropEndWhile_append_of_not (c := c) rfl (by simpa using h), List.flatMap_append,
        List.flatMap_singleton]

/-- A plain text that begins with a point ends what is written when it ends the text itself. -/
theorem suffix_flatMap_iff (spares : Spares write) {s : List Char} (cs : List Char)
    (own : ∀ c ∈ s, write c = [c]) (plain : '%' ∉ s) (pointed : s = [] ∨ s.head? = some '.') :
    s <:+ cs.flatMap write ↔ s <:+ cs := by
  induction cs using List.reverseRecOn generalizing s with
  | nil => rfl
  | append_singleton cs c ih =>
    rw [List.flatMap_append, List.flatMap_singleton]
    rcases List.eq_nil_or_concat s with rfl | ⟨t, a, e⟩
    · simp
    rw [List.concat_eq_append] at e
    subst e
    have own_t : ∀ c ∈ t, write c = [c] := fun c mem => own c (List.mem_append_left _ mem)
    have plain_t : '%' ∉ t := fun mem => plain (List.mem_append_left _ mem)
    have pointed_t : t = [] ∨ t.head? = some '.' := by
      cases t with
      | nil => exact .inl rfl
      | cons b t => exact .inr (by simpa using pointed)
    have rest := ih own_t plain_t pointed_t
    have ends_concat : ∀ ds : List Char, t ++ [a] <:+ ds ++ [c] ↔ t <:+ ds ∧ [a] = [c] := fun ds =>
      List.suffix_append_inj_of_length_eq rfl
    rcases spares c with self | ⟨tail, behind, pointless⟩
    · rw [self, ends_concat, ends_concat, rest]
    · have missing : [a] ≠ [c] := by
        intro e
        obtain rfl := List.singleton_inj.mp e
        have self := own a (by simp)
        rw [behind] at self
        exact plain ((List.cons.inj self).1 ▸ List.mem_concat_self)
      constructor
      · intro ends
        -- the plain text cannot reach over the percent sign, and no point stands behind that
        rw [behind] at ends
        exfalso
        rcases List.suffix_or_suffix_of_suffix ends (List.suffix_append _ ('%' :: tail)) with
          inside | past
        · rcases List.suffix_cons_iff.mp inside with e | inside
          · exact plain (e ▸ List.mem_cons_self)
          · have point : '.' ∈ t ++ [a] := by
              rcases pointed with e | head
              · simp at e
              · exact List.mem_of_head? head
            exact pointless (inside.mem point)
        · exact plain (past.mem List.mem_cons_self)
      · intro ends
        exact absurd ((ends_concat cs).mp ends).2 missing

end IndexExplorer.Text
