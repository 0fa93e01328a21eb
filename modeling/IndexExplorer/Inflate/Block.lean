import IndexExplorer.Inflate.Code

/-!
The blocks of a deflate stream. A stream that ends early gives what could be decompressed of it;
one that is malformed gives nothing.
-/
namespace IndexExplorer.Inflate

/-- Base values and extra bits of the lengths of matches. -/
def lengthTable : List (Nat × Nat) := [
  (3, 0), (4, 0), (5, 0), (6, 0), (7, 0), (8, 0), (9, 0), (10, 0), (11, 1), (13, 1), (15, 1),
  (17, 1), (19, 2), (23, 2), (27, 2), (31, 2), (35, 3), (43, 3), (51, 3), (59, 3), (67, 4),
  (83, 4), (99, 4), (115, 4), (131, 5), (163, 5), (195, 5), (227, 5), (258, 0)]

/-- Base values and extra bits of the distances of matches. -/
def distanceTable : List (Nat × Nat) := [
  (1, 0), (2, 0), (3, 0), (4, 0), (5, 1), (7, 1), (9, 2), (13, 2), (17, 3), (25, 3), (33, 4),
  (49, 4), (65, 5), (97, 5), (129, 6), (193, 6), (257, 7), (385, 7), (513, 8), (769, 8),
  (1025, 9), (1537, 9), (2049, 10), (3073, 10), (4097, 11), (6145, 11), (8193, 12), (12289, 12),
  (16385, 13), (24577, 13)]

/-- A value from a table: its base and as many bits as it says. -/
def fromTable (table : List (Nat × Nat)) (i : Nat) (b : Bits) : Step Nat :=
  match table[i]? with
  | some (base, extra) =>
    match number extra b with
    | .done v b => .done (base + v) b
    | .short => .short
    | .malformed => .malformed
  | none => .malformed

/-- `length` bytes from `distance` back, which may overlap with what is written. -/
def copyBack (out : Array UInt8) (distance : Nat) : Nat → Array UInt8
  | 0 => out
  | n + 1 => copyBack (out.push (out.getD (out.size - distance) 0)) distance n

/-- The output so far and how it goes on. -/
inductive Progress where
  | more (out : Array UInt8) (rest : Bits)
  | short (out : Array UInt8)
  | malformed

/-- The symbols of a block up to its end. -/
def codedBlock (literals distances : Code) : Nat → Array UInt8 → Bits → Progress
  | 0, out, _ => .short out
  | fuel + 1, out, b =>
    match symbol literals b with
    | .short => .short out
    | .malformed => .malformed
    | .done s b =>
      if s < 256 then codedBlock literals distances fuel (out.push (UInt8.ofNat s)) b
      else if s = 256 then .more out b
      else
        match fromTable lengthTable (s - 257) b with
        | .short => .short out
        | .malformed => .malformed
        | .done length b =>
          match symbol distances b with
          | .short => .short out
          | .malformed => .malformed
          | .done d b =>
            match fromTable distanceTable d b with
            | .short => .short out
            | .malformed => .malformed
            | .done distance b =>
              if out.size < distance then .malformed
              else codedBlock literals distances fuel (copyBack out distance length) b

/-- The code of literals and lengths that needs no description. -/
def fixedLiterals : Code :=
  Code.ofLengths (List.replicate 144 8 ++ List.replicate 112 9 ++ List.replicate 24 7 ++
    List.replicate 8 8)

/-- The code of distances that needs no description. Its last two codes stand for no distance. -/
def fixedDistances : Code := Code.ofLengths (List.replicate 32 5)

/-- A block of bytes as they are, from the next whole byte on. -/
def storedBlock (out : Array UInt8) (b : Bits) : Progress :=
  let bytes := if b.used = 0 then b.bytes else b.bytes.drop 1
  match bytes with
  | a :: b :: c :: d :: rest =>
    let length := a.toNat + 256 * b.toNat
    if length + c.toNat + 256 * d.toNat ≠ 0xffff then .malformed
    else if rest.length < length then .short (out ++ rest.toArray)
    else .more (out ++ (rest.take length).toArray) ⟨rest.drop length, 0⟩
  | _ => .short out

/-- The order in which the lengths of the code for code lengths come. -/
def lengthOrder : List Nat := [16, 17, 18, 0, 8, 7, 9, 6, 10, 5, 11, 4, 12, 3, 13, 2, 14, 1, 15]

/-- `n` numbers of three bits. -/
def threeBits : Nat → Bits → Step (List Nat)
  | 0, b => .done [] b
  | n + 1, b =>
    match number 3 b with
    | .done v b =>
      match threeBits n b with
      | .done vs b => .done (v :: vs) b
      | .short => .short
      | .malformed => .malformed
    | .short => .short
    | .malformed => .malformed

/-- The next symbol of the code for code lengths. In a code without symbols every bit stands for the
length zero. -/
def lengthSymbol (c : Code) (b : Bits) : Step Nat :=
  if c.symbols.isEmpty then
    match bit b with
    | .done _ b => .done 0 b
    | r => r
  else symbol c b

/-- The code lengths of a described block, with their repetitions; the last one read first. -/
def codeLengths (c : Code) (wanted : Nat) : Nat → List Nat → Bits → Step (List Nat)
  | 0, _, _ => .malformed
  | fuel + 1, done, b =>
    if wanted < done.length then .malformed
    else if done.length = wanted then .done done.reverse b
    else
      match lengthSymbol c b with
      | .short => .short
      | .malformed => .malformed
      | .done s b =>
        let repeated := fun (bits base : Nat) (v : Option Nat) =>
          match number bits b, v with
          | .done n b, some v => codeLengths c wanted fuel (List.replicate (base + n) v ++ done) b
          | .short, _ => .short
          | _, _ => .malformed
        if s < 16 then codeLengths c wanted fuel (s :: done) b
        else if s = 16 then repeated 2 3 done.head?
        else if s = 17 then repeated 3 3 (some 0)
        else repeated 7 11 (some 0)

/-- The two codes of a described block. -/
def describedCodes (b : Bits) : Step (Code × Code) :=
  match number 14 b with
  | .short => .short
  | .malformed => .malformed
  | .done sizes b =>
    let literals := sizes % 32 + 257
    let distances := sizes / 32 % 32 + 1
    if 286 < literals || 30 < distances then .malformed
    else match threeBits (sizes / 1024 + 4) b with
    | .short => .short
    | .malformed => .malformed
    | .done ls b =>
      let given := lengthOrder.zip ls
      let code := Code.ofLengths ((List.range 19).map fun i => (given.lookup i).getD 0)
      if !code.isFull then .malformed
      else
        match codeLengths code (literals + distances) (literals + distances + 1) [] b with
        | .short => .short
        | .malformed => .malformed
        | .done all b =>
          let first := Code.ofLengths (all.take literals)
          let second := Code.ofLengths (all.drop literals)
          if all.getD 256 0 = 0 || !first.isUsable || !second.isUsable then .malformed
          else .done (first, second) b

/-- The blocks of a stream up to the last one: the output and the bytes behind it. `none` when the
stream is malformed. -/
def blocks : Nat → Array UInt8 → Bits → Option (Array UInt8 × List UInt8)
  | 0, out, _ => some (out, [])
  | fuel + 1, out, b =>
    match number 3 b with
    | .short => some (out, [])
    | .malformed => none
    | .done header b =>
      let progress : Progress :=
        match header / 2 with
        | 0 => storedBlock out b
        | 1 => codedBlock fixedLiterals fixedDistances (8 * b.bytes.length + 1) out b
        | 2 =>
          match describedCodes b with
          | .done (literals, distances) b =>
            codedBlock literals distances (8 * b.bytes.length + 1) out b
          | .short => .short out
          | .malformed => .malformed
        | _ => .malformed
      match progress with
      | .malformed => none
      | .short out => some (out, [])
      | .more out b =>
        if header % 2 = 1 then some (out, if b.used = 0 then b.bytes else b.bytes.drop 1)
        else blocks fuel out b

/-- The bytes of a deflate stream and what follows it. -/
def raw (bytes : List UInt8) : Option (Array UInt8 × List UInt8) :=
  blocks (8 * bytes.length + 1) #[] ⟨bytes, 0⟩

end IndexExplorer.Inflate
