import IndexExplorer.Json.Reader
import IndexExplorer.Text.Wide

/-!
Reading a JSON value from bytes. The encoding is one of UTF-8, UTF-16 and UTF-32: a byte order
mark tells which, or the zero bytes among the first four, since a JSON text begins with ASCII.
-/
namespace IndexExplorer.Json

open IndexExplorer.Text (ByteOrder)
open IndexExplorer.Text.Wide

/-- How the characters of a JSON text are written as bytes. -/
inductive Encoding where
  | utf8
  | utf16 (order : ByteOrder)
  | utf32 (order : ByteOrder)
deriving DecidableEq, Repr

/-- The byte order marks, and what they tell. -/
def Encoding.marks : List (List UInt8 × Encoding) :=
  [([0x00, 0x00, 0xfe, 0xff], .utf32 .big), ([0xff, 0xfe, 0x00, 0x00], .utf32 .little),
   ([0xfe, 0xff], .utf16 .big), ([0xff, 0xfe], .utf16 .little), ([0xef, 0xbb, 0xbf], .utf8)]

/-- The encoding of a JSON text without a mark. Its first two characters are in ASCII, so that zeros
among its first bytes tell how wide they are. -/
def Encoding.ofZeros : List UInt8 → Encoding
  | a :: b :: c :: d :: _ =>
    if a = 0 then if b = 0 then .utf32 .big else .utf16 .big
    else if b = 0 then if c = 0 && d = 0 then .utf32 .little else .utf16 .little
    else .utf8
  | [a, b] => if a = 0 then .utf16 .big else if b = 0 then .utf16 .little else .utf8
  | _ => .utf8

/-- The encoding of a JSON text, and its bytes without the byte order mark. -/
def Encoding.detect (bs : List UInt8) : Encoding × List UInt8 :=
  match Encoding.marks.find? fun (mark, _) => mark.isPrefixOf bs with
  | some (mark, encoding) => (encoding, bs.drop mark.length)
  | none => (Encoding.ofZeros bs, bs)

/-- The bytes in units of two; `none` when one is left over. -/
def halves (order : ByteOrder) : List UInt8 → Option (List Nat)
  | [] => some []
  | [_] => none
  | a :: b :: rest =>
    (halves order rest).map (pair order a b :: ·)

/-- The bytes in units of four; `none` when some are left over. -/
def wholes (order : ByteOrder) : List UInt8 → Option (List Nat)
  | [] => some []
  | a :: b :: c :: d :: rest =>
    (wholes order rest).map (quad order a b c d :: ·)
  | _ => none

/-- The characters of UTF-16 units; an unpaired surrogate becomes the replacement character, and a
high one at the very end makes the text malformed. -/
def chars16 : List Nat → Option (List Char)
  | [] => some []
  | u :: rest =>
    if isHigh u then
      match rest with
      | [] => none
      | v :: more =>
        if isLow v then (chars16 more).map (joined u v :: ·)
        else (chars16 (v :: more)).map ('\ufffd' :: ·)
    else if isLow u then (chars16 rest).map ('\ufffd' :: ·)
    else (chars16 rest).map (Char.ofNat u :: ·)

/-- The characters of code points; `none` beyond the last one. -/
def chars32 : List Nat → Option (List Char)
  | [] => some []
  | u :: rest =>
    if 0x110000 ≤ u then none
    else if isHigh u || isLow u then (chars32 rest).map ('\ufffd' :: ·)
    else (chars32 rest).map (Char.ofNat u :: ·)

/-- The text of the bytes, when they are well formed. -/
def Encoding.decode? (e : Encoding) (bs : List UInt8) : Option (List Char) :=
  match e with
  | .utf8 => (String.fromUTF8? ⟨bs.toArray⟩).map (·.toList)
  | .utf16 order => (halves order bs).bind chars16
  | .utf32 order => (wholes order bs).bind chars32

/-- Why bytes are no JSON value. -/
inductive ByteFault where
  | undecodable
  | tooDeep
  | text (fault : ReadFault)

/-- The value that bytes spell. -/
def ofBytes (bytes : ByteArray) : Except ByteFault Json :=
  let (encoding, bs) := Encoding.detect bytes.toList
  match encoding.decode? bs with
  | none => .error .undecodable
  | some cs =>
    match parseChars cs with
    | .ok v => .ok v
    | .error .tooDeep => .error .tooDeep
    | .error e => .error (.text e)

end IndexExplorer.Json
