/-!
The SHA-256 hash of bytes.
-/
namespace IndexExplorer.Sha256

/-- The first words of the hash. -/
def initial : Array UInt32 := #[
  0x6a09e667, 0xbb67ae85, 0x3c6ef372, 0xa54ff53a, 0x510e527f, 0x9b05688c, 0x1f83d9ab, 0x5be0cd19]

/-- The constants of the rounds. -/
def constants : Array UInt32 := #[
  0x428a2f98, 0x71374491, 0xb5c0fbcf, 0xe9b5dba5, 0x3956c25b, 0x59f111f1, 0x923f82a4, 0xab1c5ed5,
  0xd807aa98, 0x12835b01, 0x243185be, 0x550c7dc3, 0x72be5d74, 0x80deb1fe, 0x9bdc06a7, 0xc19bf174,
  0xe49b69c1, 0xefbe4786, 0x0fc19dc6, 0x240ca1cc, 0x2de92c6f, 0x4a7484aa, 0x5cb0a9dc, 0x76f988da,
  0x983e5152, 0xa831c66d, 0xb00327c8, 0xbf597fc7, 0xc6e00bf3, 0xd5a79147, 0x06ca6351, 0x14292967,
  0x27b70a85, 0x2e1b2138, 0x4d2c6dfc, 0x53380d13, 0x650a7354, 0x766a0abb, 0x81c2c92e, 0x92722c85,
  0xa2bfe8a1, 0xa81a664b, 0xc24b8b70, 0xc76c51a3, 0xd192e819, 0xd6990624, 0xf40e3585, 0x106aa070,
  0x19a4c116, 0x1e376c08, 0x2748774c, 0x34b0bcb5, 0x391c0cb3, 0x4ed8aa4a, 0x5b9cca4f, 0x682e6ff3,
  0x748f82ee, 0x78a5636f, 0x84c87814, 0x8cc70208, 0x90befffa, 0xa4506ceb, 0xbef9a3f7, 0xc67178f2]

/-- Rotation to the right. -/
def rotate (x n : UInt32) : UInt32 := (x >>> n) ||| (x <<< (32 - n))

/-- The lowest byte of `n` shifted by each of the amounts. -/
def bytesOf (n : Nat) (shifts : List Nat) : List UInt8 := shifts.map fun s => UInt8.ofNat (n >>> s)

/-- The message with a one bit, zeros up to whole blocks, and its length in bits. -/
def padded (message : ByteArray) : Array UInt8 :=
  let zeros := (119 - message.size % 64) % 64
  message.data ++ #[(0x80 : UInt8)] ++ Array.replicate zeros 0 ++
    (bytesOf (message.size * 8) [56, 48, 40, 32, 24, 16, 8, 0]).toArray

/-- Whole blocks of 64 bytes. -/
theorem dvd_size_padded (message : ByteArray) : 64 ∣ (padded message).size := by
  have : message.data.size = message.size := rfl
  simp only [padded, Array.size_append, Array.size_replicate, bytesOf, List.size_toArray,
    List.length_map, List.length_cons, List.length_nil, this, Nat.dvd_iff_mod_eq_zero]
  omega

/-- The big-endian word of four bytes. -/
def word (bytes : Array UInt8) (i : Nat) : UInt32 :=
  ((bytes.getD i 0).toUInt32 <<< 24) ||| ((bytes.getD (i + 1) 0).toUInt32 <<< 16) |||
    ((bytes.getD (i + 2) 0).toUInt32 <<< 8) ||| (bytes.getD (i + 3) 0).toUInt32

/-- The word that follows the first `w.size` of a schedule. -/
def nextWord (w : Array UInt32) : UInt32 :=
  let ago := fun back => w.getD (w.size - back) 0
  let s0 := rotate (ago 15) 7 ^^^ rotate (ago 15) 18 ^^^ (ago 15 >>> 3)
  let s1 := rotate (ago 2) 17 ^^^ rotate (ago 2) 19 ^^^ (ago 2 >>> 10)
  ago 16 + s0 + ago 7 + s1

/-- The 64 words that a block is stretched to. -/
def schedule (bytes : Array UInt8) (block : Nat) : Array UInt32 :=
  let first := ((List.range 16).map fun i => word bytes (64 * block + 4 * i)).toArray
  (List.range 48).foldl (fun w _ => w.push (nextWord w)) first

/-- One round on the eight working words. -/
def round (w : Array UInt32) (s : Array UInt32) (i : Nat) : Array UInt32 :=
  let v := fun j => s.getD j 0
  let s1 := rotate (v 4) 6 ^^^ rotate (v 4) 11 ^^^ rotate (v 4) 25
  let choice := (v 4 &&& v 5) ^^^ ((~~~ v 4) &&& v 6)
  let t1 := v 7 + s1 + choice + constants.getD i 0 + w.getD i 0
  let s0 := rotate (v 0) 2 ^^^ rotate (v 0) 13 ^^^ rotate (v 0) 22
  let majority := (v 0 &&& v 1) ^^^ (v 0 &&& v 2) ^^^ (v 1 &&& v 2)
  #[t1 + (s0 + majority), v 0, v 1, v 2, v 3 + t1, v 4, v 5, v 6]

/-- The hash words after a further block. -/
def compress (bytes : Array UInt8) (h : Array UInt32) (block : Nat) : Array UInt32 :=
  let w := schedule bytes block
  Array.zipWith (· + ·) h ((List.range 64).foldl (round w) h)

/-- The 32 bytes of the hash. -/
def hash (message : ByteArray) : ByteArray :=
  let bytes := padded message
  let words := (List.range (bytes.size / 64)).foldl (compress bytes) initial
  ⟨(words.toList.flatMap fun w => bytesOf w.toNat [24, 16, 8, 0]).toArray⟩

end IndexExplorer.Sha256
