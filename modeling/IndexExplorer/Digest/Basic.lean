import IndexExplorer.Digest.Sha256
import IndexExplorer.Text.Quoted

/-!
Hashes of bytes, with and without a key.
-/
namespace IndexExplorer

/-- A hash and a keyed hash; signing works with any. -/
structure Digest where
  hash : ByteArray → ByteArray
  keyed : (key message : ByteArray) → ByteArray

namespace Digest

/-- The block of a key: long keys are hashed first, short ones filled up with zeros. -/
def keyBlock (hash : ByteArray → ByteArray) (key : ByteArray) : ByteArray :=
  let k := if 64 < key.size then hash key else key
  ⟨k.data ++ Array.replicate (64 - k.size) 0⟩

/-- The block with every byte combined with `mask`. -/
def masked (mask : UInt8) (block : ByteArray) : ByteArray := ⟨block.data.map (· ^^^ mask)⟩

/-- The hash of a message under a key: HMAC. -/
def hmac (hash : ByteArray → ByteArray) (key message : ByteArray) : ByteArray :=
  let block := keyBlock hash key
  hash (masked 0x5c block ++ hash (masked 0x36 block ++ message))

/-- SHA-256 and its keyed form. -/
def sha256 : Digest := ⟨Sha256.hash, hmac Sha256.hash⟩

/-- Bytes in lower-case hexadecimal. -/
def hexText (bytes : ByteArray) : String :=
  String.ofList (bytes.toList.flatMap fun b => Text.hex 2 b.toNat)

/-- The hexadecimal text of the hash. -/
def hashText (d : Digest) (bytes : ByteArray) : String := hexText (d.hash bytes)

end Digest

end IndexExplorer
