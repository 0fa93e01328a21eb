import IndexExplorer.Text.Case
import IndexExplorer.Text.CodePage
import IndexExplorer.Text.Escaped
import IndexExplorer.Text.Multibyte
import IndexExplorer.Text.Punycode
import IndexExplorer.Text.Utf7

/-!
Character sets by their names, and decoding bytes in one of them.

* `decode_ascii`: ASCII bytes are decoded to their characters.
-/
namespace IndexExplorer.Text

/-- A way of writing characters as bytes. Some names stand for codings that are not of characters
as bytes, or that nothing can be decoded in. -/
inductive Charset where
  | utf8
  /-- UTF-8 with a byte order mark that is no part of the text -/
  | markedUtf8
  | ascii
  | latin1
  /-- without an order a byte order mark has to tell it -/
  | utf16 (order : Option ByteOrder)
  | utf32 (order : Option ByteOrder)
  | page (p : CodePage)
  | multibyte (m : Multibyte)
  | utf7
  /-- Latin-1 with signs for other characters, of which `full` knows more -/
  | escaped (full : Bool)
  | punycode
  /-- a coding of host names -/
  | hostName
  /-- a coding of bytes as bytes -/
  | transfer
  /-- a coding of text as text -/
  | cipher
  /-- a name for having no coding -/
  | undefined
deriving DecidableEq, Repr

/-- Why bytes cannot be decoded at all. -/
inductive DecodeFault where
  /-- nothing tells the order of the bytes of units with so many bits -/
  | unmarked (bits : Nat)
  | strictOnly
  | undefined
  /-- what the bytes end inside of is longer than it may be -/
  | overflow
  /-- a byte that is none of ASCII, and its place -/
  | notAscii (byte place : Nat)
  | notText
  | notBytes
deriving DecidableEq, Repr

/-- What is said about bytes that cannot be decoded. -/
def DecodeFault.message : DecodeFault → String
  | .unmarked bits =>
    "UTF-" ++ toString bits ++ " stream does not start with BOM"
  | .strictOnly => "Unsupported error handling replace"
  | .undefined => "undefined encoding"
  | .overflow => "pending buffer overflow"
  | .notAscii byte place =>
    "'ascii' codec can't decode byte 0x" ++ String.ofList (Nat.toDigits 16 byte) ++
      " in position " ++ toString place ++ ": ordinal not in range(128)"
  | .notText | .notBytes => ""

namespace Charset

/-- The letters, digits and points of a name in lower case, with one underscore for each run of
other characters between them. `gap` holds when such a run is open. -/
def plainFrom (gap : Bool) : List Char → List Char
  | [] => []
  | c :: cs =>
    if c.isAlphanum || c = '.' then
      (if gap then ['_'] else []) ++ c.toLower :: plainFrom false cs
    else plainFrom true cs

/-- A name in the form in which names are compared. -/
def plain (name : String) : String :=
  String.ofList (plainFrom false (name.toList.dropWhile fun c => !(c.isAlphanum || c = '.')))

/-- The character sets that belong to no family, with their names and the other names they go by. -/
def named : List (Charset × List String × List String) := [
  (.utf8, ["utf_8"], ["u8", "utf", "utf8", "utf8_ucs2", "utf8_ucs4", "cp65001"]),
  (.markedUtf8, ["utf_8_sig"], []),
  (.ascii, ["ascii"],
    ["646", "ansi_x3.4_1968", "ansi_x3.4_1986", "ansi_x3_4_1968", "cp367", "csascii", "ibm367",
     "iso646_us", "iso_646.irv_1991", "iso_ir_6", "us", "us_ascii"]),
  (.latin1, ["latin_1", "iso8859_1", "charmap"],
    ["8859", "cp819", "csisolatin1", "ibm819", "iso8859", "iso8859_1", "iso_8859_1",
     "iso_8859_1_1987", "iso_ir_100", "l1", "latin", "latin1"]),
  (.utf16 none, ["utf_16"], ["u16", "utf16"]),
  (.utf16 (some .little), ["utf_16_le"], ["unicodelittleunmarked", "utf_16le"]),
  (.utf16 (some .big), ["utf_16_be"], ["unicodebigunmarked", "utf_16be"]),
  (.utf32 none, ["utf_32"], ["u32", "utf32"]),
  (.utf32 (some .little), ["utf_32_le"], ["utf_32le"]),
  (.utf32 (some .big), ["utf_32_be"], ["utf_32be"]),
  (.utf7, ["utf_7"], ["u7", "utf7", "unicode_1_1_utf_7"]),
  (.escaped true, ["unicode_escape"], []),
  (.escaped false, ["raw_unicode_escape"], []),
  (.punycode, ["punycode"], []),
  (.hostName, ["idna"], []),
  (.transfer, ["base64_codec", "bz2_codec", "hex_codec", "quopri_codec", "uu_codec", "zlib_codec"],
    ["base64", "base_64", "bz2", "hex", "quopri", "quoted_printable", "quotedprintable", "uu",
     "zip", "zlib"]),
  (.cipher, ["rot_13"], ["rot13"]),
  (.undefined, ["undefined"], [])]

/-- All known character sets, with their names and the other names they go by. -/
def known : List (Charset × List String × List String) :=
  named ++ (CodePage.all.map fun p => (.page p, [p.name], p.aliases)) ++
    Multibyte.all.map fun (m, name, others) => (.multibyte m, [name], others)

/-- The character set of a name, if it is known. In the place of an underscore the other names may
have a point. -/
def ofName? (name : String) : Option Charset :=
  let name := plain name
  let unpointed := String.ofList (name.toList.map fun c => if c = '.' then '_' else c)
  (known.find? fun (_, own, others) =>
    own.contains name || others.contains name || others.contains unpointed).map (·.1)

/-- The mark at the beginning of UTF-8, when there is one. -/
def utf8Mark : List UInt8 := [0xef, 0xbb, 0xbf]

/-- The order that a byte order mark of two bytes tells, and the bytes behind it. -/
def mark16? : List UInt8 → Option (ByteOrder × List UInt8)
  | 0xfe :: 0xff :: rest => some (.big, rest)
  | 0xff :: 0xfe :: rest => some (.little, rest)
  | _ => none

/-- The order that a byte order mark of four bytes tells, and the bytes behind it. -/
def mark32? : List UInt8 → Option (ByteOrder × List UInt8)
  | 0x00 :: 0x00 :: 0xfe :: 0xff :: rest => some (.big, rest)
  | 0xff :: 0xfe :: 0x00 :: 0x00 :: rest => some (.little, rest)
  | _ => none

/-- The character of a byte below `limit`. -/
def below (limit : Nat) (b : UInt8) : Option Char :=
  if b.toNat < limit then some (Char.ofNat b.toNat) else none

/-- The characters of bytes, `none` for each malformed place. Of units whose order is not told the
lower byte comes first. -/
def units (c : Charset) (bytes : List UInt8) : Option (List (Option Char)) :=
  let numbers := bytes.map UInt8.toNat
  match c with
  | .utf8 => some (Utf8.units .ready bytes)
  | .markedUtf8 =>
    some (if bytes.isPrefixOf utf8Mark then []
      else Utf8.units .ready (if utf8Mark.isPrefixOf bytes then bytes.drop 3 else bytes))
  | .ascii => some (bytes.map (below 0x80))
  | .latin1 => some (bytes.map (below 0x100))
  | .utf16 (some order) => some (Wide.units16 order bytes)
  | .utf16 none =>
    let (order, rest) := (mark16? bytes).getD (.little, bytes)
    some (Wide.units16 order rest)
  | .utf32 (some order) => some (Wide.units32 order bytes)
  | .utf32 none =>
    let (order, rest) := (mark32? bytes).getD (.little, bytes)
    some (Wide.units32 order rest)
  | .page p => some (p.units bytes)
  | .multibyte m => some (m.units numbers)
  | .utf7 => some (Utf7.units .direct numbers)
  | .escaped full =>
    let step := if full then Escaped.full else Escaped.raw
    some ((Reading.plainly step numbers).flatMap Reading.units)
  | .punycode => some (Punycode.decode numbers).units
  | .hostName | .transfer | .cipher | .undefined => none

/-- Nothing but malformed places keeps the bytes from being decoded. -/
def isWhole (c : Charset) (bytes : List UInt8) : Bool :=
  let numbers := bytes.map UInt8.toNat
  match c with
  | .punycode => (Punycode.decode numbers).whole && (Punycode.foreign? numbers).isNone
  | _ => true

/-- The text of bytes that have no malformed place. -/
def decodeStrict? (c : Charset) (bytes : List UInt8) : Option String :=
  if c.isWhole bytes then ((c.units bytes).bind fun us => us.mapM id).map String.ofList else none

/-- Why bytes cannot be decoded at all in a character set, if so: where the order of bytes is not
told, a mark has to tell it. -/
def fault? (c : Charset) (bytes : List UInt8) : Option DecodeFault :=
  match c with
  | .utf16 none => if 2 ≤ bytes.length && (mark16? bytes).isNone then some (.unmarked 16) else none
  | .utf32 none => if 4 ≤ bytes.length && (mark32? bytes).isNone then some (.unmarked 32) else none
  | .multibyte m => if m.overflows (bytes.map UInt8.toNat) then some .overflow else none
  | .punycode =>
    (Punycode.foreign? (bytes.map UInt8.toNat)).map fun (byte, place) => .notAscii byte place
  | .hostName => some .strictOnly
  | .transfer => some .notText
  | .cipher => some .notBytes
  | .undefined => some .undefined
  | _ => none

/-- The text of bytes, with a replacement character for what is malformed. -/
def decode (c : Charset) (bytes : ByteArray) : Except DecodeFault String :=
  match c.fault? bytes.toList with
  | some fault => .error fault
  | none =>
    .ok (String.ofList (((c.units bytes.toList).getD []).map (·.getD Utf8.replacement)))

theorem decode_ascii {bytes : ByteArray} (h : ∀ b ∈ bytes.toList, b.toNat < 0x80) :
    Charset.ascii.decode bytes =
      .ok (String.ofList (bytes.toList.map fun b => Char.ofNat b.toNat)) := by
  have same : bytes.toList.map (fun b => (below 0x80 b).getD Utf8.replacement) =
      bytes.toList.map fun b => Char.ofNat b.toNat := by
    apply List.map_congr_left
    intro b hb
    simp [below, h b hb]
  simp only [decode, fault?, units, Option.getD_some, List.map_map]
  rw [← same]
  rfl

end Charset

end IndexExplorer.Text
