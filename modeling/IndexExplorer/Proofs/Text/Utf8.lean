import IndexExplorer.Text.Utf8
import Mathlib.Tactic.SplitIfs

/-!
Decoding what was encoded.

* `units_utf8EncodeChar`: the bytes of a character are decoded to that character, and leave the
  machine between characters;
* `decode_utf8`: the bytes of a text are decoded to that text;
* `length_step`: no byte adds more than one to the characters that are there or begun.
-/
namespace IndexExplorer.Text.Utf8

/-- The numbers of the bytes that encode a character. -/
theorem toNat_utf8EncodeChar (c : Char) :
    (String.utf8EncodeChar c).map UInt8.toNat =
      if c.toNat < 0x80 then [c.toNat]
      else if c.toNat < 0x800 then [c.toNat / 0x40 + 0xc0, c.toNat % 0x40 + 0x80]
      else if c.toNat < 0x10000 then
        [c.toNat / 0x1000 + 0xe0, c.toNat / 0x40 % 0x40 + 0x80, c.toNat % 0x40 + 0x80]
      else
        [c.toNat / 0x40000 + 0xf0, c.toNat / 0x1000 % 0x40 + 0x80, c.toNat / 0x40 % 0x40 + 0x80,
          c.toNat % 0x40 + 0x80] := by
  have valid : c.toNat < 0x110000 := by
    rcases c.valid with small | ⟨-, large⟩
    · exact Nat.lt_trans small (by decide)
    · exact large
  have value : c.val.toNat = c.toNat := rfl
  unfold String.utf8EncodeChar
  simp only [value]
  split
  · rename_i h
    rw [if_pos (by omega)]
    simp
    omega
  · split
    · rw [if_neg (by omega), if_pos (by omega)]
      simp
      omega
    · split
      · rw [if_neg (by omega), if_neg (by omega), if_pos (by omega)]
        simp
        omega
      · rw [if_neg (by omega), if_neg (by omega), if_neg (by omega)]
        simp
        omega

theorem units_cons {s : State} {b : UInt8} {out : List (Option Char)} {next : State}
    (takes : step s b.toNat = (out, next)) (bs : List UInt8) :
    units s (b :: bs) = out ++ units next bs := by
  cases s <;> simp only [units, takes]

/-- A byte in its range goes on with the character begun. -/
theorem step_inside {left point low high b : Nat} (from_low : low ≤ b) (to_high : b ≤ high) :
    step (.inside left point low high) b =
      if left ≤ 1 then ([some (Char.ofNat (point * 64 + (b - 0x80)))], .ready)
      else ([], .inside (left - 1) (point * 64 + (b - 0x80)) 0x80 0xbf) := by
  simp [step, from_low, to_high]

theorem start_two {b : Nat} (low : 0xc2 ≤ b) (high : b < 0xe0) :
    start b = ([], .inside 1 (b - 0xc0) 0x80 0xbf) := by
  rw [start, if_neg (by omega), if_neg (by omega), if_pos high]

theorem start_three {b : Nat} (low : 0xe0 ≤ b) (high : b < 0xf0) :
    start b = ([], .inside 2 (b - 0xe0) (if b = 0xe0 then 0xa0 else 0x80)
      (if b = 0xed then 0x9f else 0xbf)) := by
  rw [start, if_neg (by omega), if_neg (by omega), if_neg (by omega), if_pos high]

theorem start_four {b : Nat} (low : 0xf0 ≤ b) (high : b < 0xf5) :
    start b = ([], .inside 3 (b - 0xf0) (if b = 0xf0 then 0x90 else 0x80)
      (if b = 0xf4 then 0x8f else 0xbf)) := by
  rw [start, if_neg (by omega), if_neg (by omega), if_neg (by omega), if_neg (by omega),
    if_pos high]

/-- The bytes of a character are decoded to that character. -/
theorem units_utf8EncodeChar (c : Char) (rest : List UInt8) :
    units .ready (String.utf8EncodeChar c ++ rest) = some c :: units .ready rest := by
  have numbers := toNat_utf8EncodeChar c
  have valid := c.valid
  have value : c.val.toNat = c.toNat := rfl
  simp only [UInt32.isValidChar, Nat.isValidChar, value] at valid
  generalize String.utf8EncodeChar c = bytes at *
  split at numbers
  · rename_i one
    obtain ⟨b, bs, rfl, first, none⟩ := List.map_eq_cons_iff.mp numbers
    obtain rfl := List.map_eq_nil_iff.mp none
    have takes : step .ready b.toNat = ([some c], .ready) := by
      simp [step, start, first, one, Char.ofNat_toNat]
    exact units_cons takes rest
  · split at numbers
    · rename_i two
      obtain ⟨b₁, bs, rfl, first, numbers⟩ := List.map_eq_cons_iff.mp numbers
      obtain ⟨b₂, bs, rfl, second, none⟩ := List.map_eq_cons_iff.mp numbers
      obtain rfl := List.map_eq_nil_iff.mp none
      have takes₁ : step .ready b₁.toNat = _ := start_two (by omega) (by omega)
      have takes₂ : step (.inside 1 (b₁.toNat - 0xc0) 0x80 0xbf) b₂.toNat = _ :=
        step_inside (by omega) (by omega)
      have point : (b₁.toNat - 0xc0) * 64 + (b₂.toNat - 0x80) = c.toNat := by omega
      rw [point, Char.ofNat_toNat] at takes₂
      simp only [List.cons_append, List.nil_append, units_cons takes₁, units_cons takes₂]
    · split at numbers
      · rename_i three
        obtain ⟨b₁, bs, rfl, first, numbers⟩ := List.map_eq_cons_iff.mp numbers
        obtain ⟨b₂, bs, rfl, second, numbers⟩ := List.map_eq_cons_iff.mp numbers
        obtain ⟨b₃, bs, rfl, third, none⟩ := List.map_eq_cons_iff.mp numbers
        obtain rfl := List.map_eq_nil_iff.mp none
        have takes₁ : step .ready b₁.toNat = _ := start_three (by omega) (by omega)
        have takes₂ : step (.inside 2 (b₁.toNat - 0xe0) (if b₁.toNat = 0xe0 then 0xa0 else 0x80)
            (if b₁.toNat = 0xed then 0x9f else 0xbf)) b₂.toNat = _ :=
          step_inside (by split <;> omega) (by split <;> omega)
        have takes₃ : step (.inside 1 ((b₁.toNat - 0xe0) * 64 + (b₂.toNat - 0x80)) 0x80 0xbf)
            b₃.toNat = _ := step_inside (by omega) (by omega)
        have point : ((b₁.toNat - 0xe0) * 64 + (b₂.toNat - 0x80)) * 64 + (b₃.toNat - 0x80) =
            c.toNat := by omega
        rw [point, Char.ofNat_toNat] at takes₃
        simp only [List.cons_append, List.nil_append, units_cons takes₁,
          units_cons takes₂, units_cons takes₃]
      · rename_i four
        obtain ⟨b₁, bs, rfl, first, numbers⟩ := List.map_eq_cons_iff.mp numbers
        obtain ⟨b₂, bs, rfl, second, numbers⟩ := List.map_eq_cons_iff.mp numbers
        obtain ⟨b₃, bs, rfl, third, numbers⟩ := List.map_eq_cons_iff.mp numbers
        obtain ⟨b₄, bs, rfl, fourth, none⟩ := List.map_eq_cons_iff.mp numbers
        obtain rfl := List.map_eq_nil_iff.mp none
        have takes₁ : step .ready b₁.toNat = _ := start_four (by omega) (by omega)
        have takes₂ : step (.inside 3 (b₁.toNat - 0xf0) (if b₁.toNat = 0xf0 then 0x90 else 0x80)
            (if b₁.toNat = 0xf4 then 0x8f else 0xbf)) b₂.toNat = _ :=
          step_inside (by split <;> omega) (by split <;> omega)
        have takes₃ : step (.inside 2 ((b₁.toNat - 0xf0) * 64 + (b₂.toNat - 0x80)) 0x80 0xbf)
            b₃.toNat = _ := step_inside (by omega) (by omega)
        have takes₄ : step (.inside 1 (((b₁.toNat - 0xf0) * 64 + (b₂.toNat - 0x80)) * 64 +
            (b₃.toNat - 0x80)) 0x80 0xbf) b₄.toNat = _ := step_inside (by omega) (by omega)
        have point : (((b₁.toNat - 0xf0) * 64 + (b₂.toNat - 0x80)) * 64 + (b₃.toNat - 0x80)) * 64 +
            (b₄.toNat - 0x80) = c.toNat := by omega
        rw [point, Char.ofNat_toNat] at takes₄
        simp only [List.cons_append, List.nil_append, units_cons takes₁,
          units_cons takes₂, units_cons takes₃, units_cons takes₄]

/-- The bytes of a text are decoded to that text. -/
theorem units_utf8 (cs : List Char) :
    units .ready (cs.flatMap String.utf8EncodeChar) = cs.map some := by
  induction cs with
  | nil => rfl
  | cons c cs ih => rw [List.flatMap_cons, units_utf8EncodeChar, ih, List.map_cons]

/-! ## How many characters there are -/

/-- A character that is begun counts for one. -/
def pending : State → Nat
  | .ready => 0
  | .inside .. => 1

/-- Only bytes that go on with a character do so. -/
def Sound : State → Prop
  | .ready => True
  | .inside _ _ low high => 0x80 ≤ low ∧ high ≤ 0xbf

theorem sound_start (b : Nat) : Sound (start b).2 := by
  unfold start
  split_ifs <;> simp [Sound]

theorem sound_step {s : State} (sound : Sound s) (b : Nat) : Sound (step s b).2 := by
  cases s with
  | ready => exact sound_start b
  | inside left point low high =>
    by_cases range : low ≤ b ∧ b ≤ high
    · simp only [step, range, and_self, ↓reduceIte]
      split_ifs <;> simp [Sound]
    · simp only [step, range, ↓reduceIte]
      exact sound_start b

theorem length_start (b : Nat) : (start b).1.length + pending (start b).2 = 1 := by
  unfold start
  split_ifs <;> rfl

/-- A byte adds at most one to the characters that are there or begun. -/
theorem length_step (s : State) (b : Nat) :
    (step s b).1.length + pending (step s b).2 ≤ pending s + 1 := by
  cases s with
  | ready => exact Nat.le_of_eq (length_start b)
  | inside left point low high =>
    by_cases range : low ≤ b ∧ b ≤ high
    · simp only [step, range, and_self, ↓reduceIte]
      split_ifs <;> simp [pending]
    · have started := length_start b
      have begun : pending (.inside left point low high) = 1 := rfl
      simp only [step, range, ↓reduceIte, List.length_cons, begun]
      omega

/-- The first byte of a character goes on with no other one. -/
theorem head_utf8EncodeChar (c : Char) :
    ∃ b bs, String.utf8EncodeChar c = b :: bs ∧ (b.toNat < 0x80 ∨ 0xbf < b.toNat) := by
  have numbers := toNat_utf8EncodeChar c
  generalize String.utf8EncodeChar c = bytes at *
  split_ifs at numbers <;> obtain ⟨b, bs, rfl, first, -⟩ := List.map_eq_cons_iff.mp numbers
  · exact ⟨b, bs, rfl, .inl (by omega)⟩
  all_goals exact ⟨b, bs, rfl, .inr (by omega)⟩

/-- A whole character is one more, and what was begun before it is another. -/
theorem length_units_utf8EncodeChar {s : State} (sound : Sound s) (c : Char) (rest : List UInt8) :
    (units s (String.utf8EncodeChar c ++ rest)).length =
      pending s + 1 + (units .ready rest).length := by
  cases s with
  | ready =>
    rw [units_utf8EncodeChar]
    simp [pending, Nat.add_comm]
  | inside left point low high =>
    obtain ⟨b, bs, bytes, new⟩ := head_utf8EncodeChar c
    have outside : ¬ (low ≤ b.toNat ∧ b.toNat ≤ high) := by
      have := sound.1
      have := sound.2
      omega
    have broken : units (.inside left point low high) (b :: (bs ++ rest)) =
        none :: units .ready (b :: (bs ++ rest)) := by
      simp only [units, step, outside, ↓reduceIte, List.cons_append]
    rw [bytes, List.cons_append, broken, ← List.cons_append, ← bytes, units_utf8EncodeChar]
    simp [pending]
    omega

/-! ## Bytes of a text -/

theorem toList_loop (bytes : ByteArray) (i : Nat) (taken : List UInt8) :
    ByteArray.toList.loop bytes i taken = taken.reverse ++ bytes.data.toList.drop i := by
  induction i, taken using ByteArray.toList.loop.induct bytes with
  | case1 i taken inside ih =>
    have first : bytes.data.toList.drop i = bytes.get! i :: bytes.data.toList.drop (i + 1) := by
      have size : i < bytes.data.toList.length := by simpa using inside
      rw [List.drop_eq_getElem_cons size]
      simp [ByteArray.get!, getElem!_pos bytes.data i inside]
    rw [ByteArray.toList.loop, if_pos inside, ih, first]
    simp
  | case2 i taken outside =>
    have size : bytes.data.toList.length ≤ i := by simpa using outside
    rw [ByteArray.toList.loop, if_neg outside, List.drop_eq_nil_of_le size, List.append_nil]

theorem length_decode (bytes : List UInt8) :
    (decode ⟨bytes.toArray⟩).length = (units .ready bytes).length := by
  rw [decode, ByteArray.toList, toList_loop]
  simp

theorem decode_utf8 (cs : List Char) :
    decode ⟨(cs.flatMap String.utf8EncodeChar).toArray⟩ = String.ofList cs := by
  rw [decode, ByteArray.toList, toList_loop]
  simp [units_utf8, Function.comp_def]

end IndexExplorer.Text.Utf8
