import IndexExplorer.Text.Switched

/-!
The character sets of East Asia and their names.

* `units_ascii`: the sets in which each byte of ASCII is a character decode it as that.
-/
namespace IndexExplorer.Text

/-- A character set of East Asia. -/
inductive Multibyte where
  | gb2312
  | gbk
  | gb18030
  | hz
  | big5
  | big5Vendor
  | hongKong
  | eucKorean
  | koreanVendor
  | johab
  | eucJapanese
  | eucExtended (edition : Japanese.Edition)
  | shift
  | shiftVendor
  | shiftExtended (edition : Japanese.Edition)
  | escapes (form : Switched.Form)
deriving DecidableEq, Repr

namespace Multibyte

/-- All of them with their names and the other names they go by. -/
def all : List (Multibyte × String × List String) := [
  (.gb2312, "gb2312",
    ["chinese", "csiso58gb231280", "euc_cn", "euccn", "eucgb2312_cn", "gb2312_1980", "gb2312_80",
     "iso_ir_58", "x_mac_simp_chinese"]),
  (.gbk, "gbk", ["936", "cp936", "ms936"]),
  (.gb18030, "gb18030", ["gb18030_2000"]),
  (.hz, "hz", ["hzgb", "hz_gb", "hz_gb_2312"]),
  (.big5, "big5", ["big5_tw", "csbig5", "x_mac_trad_chinese"]),
  (.big5Vendor, "cp950", ["950", "ms950"]),
  (.hongKong, "big5hkscs", ["big5_hkscs", "hkscs"]),
  (.eucKorean, "euc_kr",
    ["euckr", "korean", "ksc5601", "ks_c_5601", "ks_c_5601_1987", "ksx1001", "ks_x_1001",
     "x_mac_korean"]),
  (.koreanVendor, "cp949", ["949", "ms949", "uhc"]),
  (.johab, "johab", ["cp1361", "ms1361"]),
  (.eucJapanese, "euc_jp", ["eucjp", "ujis", "u_jis"]),
  (.eucExtended .first, "euc_jisx0213", ["eucjisx0213"]),
  (.eucExtended .second, "euc_jis_2004", ["jisx0213", "eucjis2004", "euc_jis2004"]),
  (.shift, "shift_jis", ["csshiftjis", "shiftjis", "sjis", "s_jis", "x_mac_japanese"]),
  (.shiftVendor, "cp932", ["932", "ms932", "mskanji", "ms_kanji"]),
  (.shiftExtended .first, "shift_jisx0213", ["shiftjisx0213", "sjisx0213", "s_jisx0213"]),
  (.shiftExtended .second, "shift_jis_2004", ["shiftjis2004", "sjis_2004", "s_jis_2004"]),
  (.escapes .korean, "iso2022_kr", ["csiso2022kr", "iso2022kr", "iso_2022_kr"]),
  (.escapes .japanese, "iso2022_jp", ["csiso2022jp", "iso2022jp", "iso_2022_jp"]),
  (.escapes .supplementary, "iso2022_jp_1", ["iso2022jp_1", "iso_2022_jp_1"]),
  (.escapes .multilingual, "iso2022_jp_2", ["iso2022jp_2", "iso_2022_jp_2"]),
  (.escapes .extendedFirst, "iso2022_jp_3", ["iso2022jp_3", "iso_2022_jp_3"]),
  (.escapes .extendedSecond, "iso2022_jp_2004", ["iso2022jp_2004", "iso_2022_jp_2004"]),
  (.escapes .syllabic, "iso2022_jp_ext", ["iso2022jp_ext", "iso_2022_jp_ext"])]

/-- All readings of some bytes. -/
def readings (m : Multibyte) (bytes : List Nat) : List Reading :=
  match m with
  | .gb2312 => Reading.plainly (Reading.asciiOrDouble Chinese.gb2312Char?) bytes
  | .gbk => Reading.plainly (Reading.asciiOrDouble Chinese.gbkChar?) bytes
  | .gb18030 => Reading.plainly Chinese.gb18030 bytes
  | .hz => Reading.all Switched.hz false 0 bytes
  | .big5 => Reading.plainly (Reading.asciiOrDouble Chinese.big5Char?) bytes
  | .big5Vendor => Reading.plainly (Reading.asciiOrDouble Chinese.vendorChar?) bytes
  | .hongKong => Reading.plainly Chinese.hongKong bytes
  | .eucKorean => Reading.plainly Korean.euc bytes
  | .koreanVendor => Reading.plainly (Reading.asciiOrDouble Korean.vendorChar?) bytes
  | .johab => Reading.plainly (Reading.asciiOrDouble Korean.johabChar?) bytes
  | .eucJapanese => Reading.plainly Japanese.euc bytes
  | .eucExtended edition => Reading.plainly (Japanese.eucExtended edition) bytes
  | .shift => Reading.plainly Japanese.shift bytes
  | .shiftVendor => Reading.plainly Japanese.vendorShift bytes
  | .shiftExtended edition => Reading.plainly (Japanese.shiftExtended edition) bytes
  | .escapes form => Switched.readings form bytes

/-- More bytes than these cannot wait for the end of what they begin. -/
def longestBeginning : Nat := 8

/-- The bytes end inside of something that is longer than it may be. -/
def overflows (m : Multibyte) (bytes : List Nat) : Bool :=
  longestBeginning < Reading.remainder bytes (m.readings bytes)

/-- The characters of bytes, `none` for each malformed place. -/
def units (m : Multibyte) (bytes : List Nat) : List (Option Char) :=
  (m.readings bytes).flatMap Reading.units

theorem units_ascii {bytes : List Nat} (h : ∀ b ∈ bytes, b < 0x80) {m : Multibyte}
    (hm : m ∈ [gb2312, gbk, big5, big5Vendor, koreanVendor, johab]) :
    m.units bytes = bytes.map fun b => some (Char.ofNat b) := by
  have plain (char? : Nat → Nat → Option Char) :
      (Reading.plainly (Reading.asciiOrDouble char?) bytes).flatMap Reading.units =
        bytes.map fun b => some (Char.ofNat b) :=
    Reading.units_plainly fun b hb rest => Reading.asciiOrDouble_ascii (h b hb) char? rest
  simp only [List.mem_cons, List.not_mem_nil, or_false] at hm
  rcases hm with rfl | rfl | rfl | rfl | rfl | rfl <;> exact plain _

end Multibyte

end IndexExplorer.Text
