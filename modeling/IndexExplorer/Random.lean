/-!
Pseudo-random numbers from a seed: the Mersenne Twister with 624 words of 32 bits.
-/
namespace IndexExplorer

/-- The words of the generator, and how many of them are used. -/
structure Random where
  words : Array UInt32
  used : Nat

namespace Random

/-- The number of words. -/
def size : Nat := 624

/-- The words that a single number gives. -/
def ofWord (seed : UInt32) : Array UInt32 :=
  (List.range (size - 1)).foldl (fun ws i =>
    let prev := ws.getD i 0
    ws.push ((1812433253 : UInt32) * (prev ^^^ (prev >>> 30)) + UInt32.ofNat (i + 1))) #[seed]

/-- A place among the words, and the place that follows. Behind the last word its value goes to
the front as well. -/
def advance (ws : Array UInt32) (i : Nat) : Array UInt32 × Nat :=
  if i + 1 < size then (ws, i + 1) else (ws.setIfInBounds 0 (ws.getD (size - 1) 0), 1)

/-- A word mixed with the one before it. -/
def mixed (ws : Array UInt32) (i : Nat) (factor : UInt32) : UInt32 :=
  let prev := ws.getD (i - 1) 0
  ws.getD i 0 ^^^ ((prev ^^^ (prev >>> 30)) * factor)

/-- The words that a key gives. -/
def ofKey (key : List Nat) : Array UInt32 :=
  let key := key.toArray
  let first := (List.range (max size key.size)).foldl (fun (s : Array UInt32 × Nat) n =>
    let (ws, i) := s
    let j := n % key.size
    advance (ws.setIfInBounds i (mixed ws i 1664525 + UInt32.ofNat (key.getD j 0) + UInt32.ofNat j))
      i) (ofWord 19650218, 1)
  let second := (List.range (size - 1)).foldl (fun (s : Array UInt32 × Nat) _ =>
    let (ws, i) := s
    advance (ws.setIfInBounds i (mixed ws i 1566083941 - UInt32.ofNat i)) i) first
  second.1.setIfInBounds 0 0x80000000

/-- The words of 32 bits of a number, the lowest first; at least one. -/
def keyOf (n : Nat) : List Nat :=
  if h : n < 0x100000000 then [n] else n % 0x100000000 :: keyOf (n / 0x100000000)
termination_by n

/-- The generator of a seed, whose sign does not matter. -/
def ofSeed (seed : Int) : Random := ⟨ofKey (keyOf seed.natAbs), size⟩

/-- All words anew. -/
def twist (ws : Array UInt32) : Array UInt32 :=
  (List.range size).foldl (fun ws i =>
    let y := (ws.getD i 0 &&& 0x80000000) ||| (ws.getD ((i + 1) % size) 0 &&& 0x7fffffff)
    let odd : UInt32 := if y &&& 1 = 1 then 0x9908b0df else 0
    ws.setIfInBounds i (ws.getD ((i + 397) % size) 0 ^^^ (y >>> 1) ^^^ odd)) ws

/-- The bits of a word spread before it is given out. -/
def temper (y : UInt32) : UInt32 :=
  let y := y ^^^ (y >>> 11)
  let y := y ^^^ ((y <<< 7) &&& 0x9d2c5680)
  let y := y ^^^ ((y <<< 15) &&& 0xefc60000)
  y ^^^ (y >>> 18)

/-- The next word. -/
def word (r : Random) : Nat × Random :=
  let r := if r.used < size then r else ⟨twist r.words, 0⟩
  ((temper (r.words.getD r.used 0)).toNat, { r with used := r.used + 1 })

/-- The next number from zero to below one, in steps of `2 ^ -53`. -/
def unit (r : Random) : Float × Random :=
  let (a, r) := r.word
  let (b, r) := r.word
  ((Float.ofNat (a / 32 * 67108864 + b / 64)) / 9007199254740992.0, r)

/-- The next number below `n`: words are drawn until their highest bits are below `n`. The draws
are limited, far beyond what any run takes. -/
def below (n : Nat) (r : Random) : Nat × Random :=
  let shift := 32 - (n.log2 + 1)
  let rec draw : Nat → Random → Nat × Random
    | 0, r => (0, r)
    | fuel + 1, r =>
      let (w, r) := r.word
      let v := w >>> shift
      if v < n then (v, r) else draw fuel r
  draw 4096 r

end Random

end IndexExplorer
