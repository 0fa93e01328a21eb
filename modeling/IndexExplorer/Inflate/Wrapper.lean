import IndexExplorer.Inflate.Block

/-!
The wrappers around deflate streams, gzip and zlib, with their checks.
-/
namespace IndexExplorer.Inflate

/-- Bytes up to and with the first zero, dropped. -/
def dropText (bytes : List UInt8) : List UInt8 := (bytes.dropWhile (· ≠ 0)).drop 1

/-- The remainder table of the cyclic redundancy check, one entry for a byte. -/
def crcEntry (n : Nat) : Nat :=
  (List.range 8).foldl (fun c _ => if c % 2 = 1 then (c / 2) ^^^ 0xedb88320 else c / 2) n

/-- The cyclic redundancy check of bytes. -/
def crc32 (bytes : Array UInt8) : Nat :=
  (bytes.foldl (fun c b => crcEntry ((c ^^^ b.toNat) % 256) ^^^ (c / 256)) 0xffffffff) ^^^
    0xffffffff

/-- The number of four bytes, the lowest first. -/
def little : List UInt8 → Nat
  | [] => 0
  | b :: bs => b.toNat + 256 * little bs

/-- The stream behind a gzip header; `none` if it is none, and nothing if it ends early. A check of
the header itself has to agree when it is there. -/
def gzipBody (bytes : List UInt8) : Option (List UInt8) :=
  match bytes with
  | 0x1f :: 0x8b :: method :: flags :: rest =>
    if method ≠ 8 || flags.toNat ≥ 0x20 then none
    else
      let has := fun (n : Nat) => flags.toNat / n % 2 = 1
      let rest := rest.drop 6
      let rest := if has 4 then
          match rest with
          | a :: b :: more => more.drop (a.toNat + 256 * b.toNat)
          | _ => []
        else rest
      let rest := if has 8 then dropText rest else rest
      let rest := if has 16 then dropText rest else rest
      if has 2 then
        let header := bytes.take (bytes.length - rest.length)
        let check := rest.take 2
        if check.length = 2 && little check ≠ crc32 header.toArray % 0x10000 then none
        else some (rest.drop 2)
      else some rest
  | 0x1f :: 0x8b :: _ | [_] | [] => some []
  | _ => none

/-- The bytes of a gzip stream. Where its check and length follow they have to agree. -/
def gzip (bytes : List UInt8) : Option ByteArray :=
  (gzipBody bytes).bind fun body =>
    (raw body).bind fun (out, rest) =>
      let check := rest.take 4
      let size := (rest.drop 4).take 4
      if (check.length = 4 && little check ≠ crc32 out) ||
          (size.length = 4 && little size ≠ out.size % 0x100000000) then
        none
      else some ⟨out⟩

/-- The check at the end of a zlib stream. -/
def adler32 (bytes : Array UInt8) : Nat :=
  let (a, b) := bytes.foldl (fun (a, b) x =>
    let a := (a + x.toNat) % 65521
    (a, (b + a) % 65521)) (1, 0)
  b * 65536 + a

/-- The bytes of a zlib stream. Where its check follows it has to agree. A stream that is made for a
dictionary cannot be read once its header is complete. -/
def zlib (bytes : List UInt8) : Option ByteArray :=
  match bytes with
  | a :: b :: rest =>
    if a.toNat % 16 ≠ 8 || 7 < a.toNat / 16 || (a.toNat * 256 + b.toNat) % 31 ≠ 0 then none
    else if b.toNat / 32 % 2 = 1 then if rest.length < 4 then some ByteArray.empty else none
    else
      (raw rest).bind fun (out, rest) =>
        let check := rest.take 4
        if check.length = 4 && little check.reverse ≠ adler32 out then none else some ⟨out⟩
  | _ => some ByteArray.empty

/-- The bytes of a stream in the deflate format, with or without the zlib wrapper. -/
def deflate (bytes : List UInt8) : Option ByteArray :=
  zlib bytes <|> (raw bytes).map fun (out, _) => ⟨out⟩

end IndexExplorer.Inflate
