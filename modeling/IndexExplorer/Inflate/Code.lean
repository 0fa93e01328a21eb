/-!
Reading a stream bit by bit, and the prefix codes that the deflate format is written in.
-/
namespace IndexExplorer.Inflate

/-- The bits of a stream still to be read, as the bytes and the number of bits read of the first. -/
structure Bits where
  bytes : List UInt8
  used : Nat

/-- How reading a part of a stream ends. -/
inductive Step (α : Type) where
  | done (value : α) (rest : Bits)
  | short
  | malformed

/-- The next bit. -/
def bit (b : Bits) : Step Nat :=
  match b.bytes with
  | [] => .short
  | x :: rest =>
    let v := (x.toNat >>> b.used) % 2
    if b.used = 7 then .done v ⟨rest, 0⟩ else .done v ⟨b.bytes, b.used + 1⟩

/-- The next `n` bits as a number, the lowest first. -/
def number : Nat → Bits → Step Nat
  | 0, b => .done 0 b
  | n + 1, b =>
    match bit b with
    | .done v b =>
      match number n b with
      | .done w b => .done (v + 2 * w) b
      | .short => .short
      | .malformed => .malformed
    | .short => .short
    | .malformed => .malformed

/-- A prefix code: for each length the number of codes, and the symbols in order. -/
structure Code where
  counts : List Nat
  symbols : Array Nat

/-- The code in which symbol `i` has a code of length `lengths[i]`, none if that is zero. -/
def Code.ofLengths (lengths : List Nat) : Code :=
  let indexed := lengths.zip (List.range lengths.length)
  ⟨(List.range 15).map fun l => lengths.countP (· = l + 1),
    ((List.range 15).flatMap fun l =>
      (indexed.filter (·.1 = l + 1)).map (·.2)).toArray⟩

/-- How many codes of the greatest length are still free; `none` when there are more codes than
their lengths have room for. -/
def Code.room (c : Code) : Option Nat :=
  c.counts.foldl (fun (left : Option Nat) n =>
    left.bind fun l => if n ≤ 2 * l then some (2 * l - n) else none) (some 1)

/-- No code is free, or there are no codes at all. -/
def Code.isFull (c : Code) : Bool := c.room = some 0 || c.symbols.isEmpty

/-- No code is free, or there is at most one, which is of a single bit. -/
def Code.isUsable (c : Code) : Bool := c.isFull || c.counts.headD 0 = 1 && c.symbols.size = 1

/-- The next symbol. `code` counts up the codes of the length read so far from `first`. -/
def symbolFrom (symbols : Array Nat) : List Nat → (code first index : Nat) → Bits → Step Nat
  | [], _, _, _, _ => .malformed
  | n :: counts, code, first, index, b =>
    match bit b with
    | .done v b =>
      let code := 2 * code + v
      let first := 2 * first
      if code < first + n then .done (symbols.getD (index + (code - first)) 0) b
      else if counts.all (· = 0) then .malformed
      else symbolFrom symbols counts code (first + n) (index + n) b
    | .short => .short
    | .malformed => .malformed

/-- The next symbol of a code. -/
def symbol (c : Code) (b : Bits) : Step Nat := symbolFrom c.symbols c.counts 0 0 0 b

end IndexExplorer.Inflate
