import ScriptGrader.Text.CodePage.Catalog
import ScriptGrader.Text.CodePage.Rearranged

/-!
# Ways to write texts

A text is written as bytes in one of many ways, each of which goes by some
names. Some ways with a name do not write texts at all.
-/

namespace ScriptGrader.Text

/-- Which of two bytes comes first. -/
inductive ByteOrder
  | little
  | big
  deriving DecidableEq, Repr

/-- Ways in which a character of East Asia takes several bytes. -/
inductive EastAsian
  | big5
  | big5Extended
  | windows932
  | windows949
  | windows950
  | johab
  | shiftJis
  | shiftJis2000
  | shiftJis2004
  | extendedJapanese
  | extendedJapanese2000
  | extendedJapanese2004
  | extendedKorean
  | gb2312
  | gbk
  | gb18030
  /-- Chinese in seven bits. -/
  | hz
  /-- Japanese in seven bits, in one of several editions. -/
  | japanese
  | japanese1
  | japanese2
  | japanese3
  | japanese2004
  | japaneseExtended
  /-- Korean in seven bits. -/
  | korean
  deriving DecidableEq, Repr

/-- A way to write texts. -/
inductive Charset
  | page (p : CodePage)
  | utf8
  /-- UTF-8 behind a mark that is no part of the text. -/
  | markedUtf8
  /-- Where no order is given, a mark in front tells it. -/
  | utf16 (order : Option ByteOrder)
  | utf32 (order : Option ByteOrder)
  | utf7
  /-- Characters beyond ASCII as escapes. -/
  | escapes
  /-- The same with fewer escapes. -/
  | fewEscapes
  | eastAsian (e : EastAsian)
  | punycode
  /-- Names of hosts, of which nothing can be left out. -/
  | hostNames
  /-- A way that never works. -/
  | undefined
  /-- Other letters instead of letters. -/
  | letters
  /-- Bytes as other bytes. -/
  | bytes
  deriving Repr

namespace Charset

/-- Ways that are no code pages, with their names. -/
def named : List (NameGroup × Charset) := [
  (⟨["utf_8"], ["cp65001", "u8", "utf", "utf8", "utf8_ucs2", "utf8_ucs4"]⟩, utf8),
  (⟨["utf_8_sig"], []⟩, markedUtf8),
  (⟨["utf_16"], ["u16", "utf16"]⟩, utf16 none),
  (⟨["utf_16_le"], ["unicodelittleunmarked", "utf_16le"]⟩, utf16 (some .little)),
  (⟨["utf_16_be"], ["unicodebigunmarked", "utf_16be"]⟩, utf16 (some .big)),
  (⟨["utf_32"], ["u32", "utf32"]⟩, utf32 none),
  (⟨["utf_32_le"], ["utf_32le"]⟩, utf32 (some .little)),
  (⟨["utf_32_be"], ["utf_32be"]⟩, utf32 (some .big)),
  (⟨["utf_7"], ["u7", "unicode_1_1_utf_7", "utf7"]⟩, utf7),
  (⟨["unicode_escape"], []⟩, escapes),
  (⟨["raw_unicode_escape"], []⟩, fewEscapes),
  (⟨["punycode"], []⟩, punycode),
  (⟨["idna"], []⟩, hostNames),
  (⟨["undefined"], []⟩, undefined),
  (⟨["rot_13"], ["rot13"]⟩, letters),
  (⟨["base64_codec", "bz2_codec", "hex_codec", "quopri_codec", "uu_codec", "zlib_codec"],
    ["base64", "base_64", "bz2", "hex", "quopri", "quoted_printable", "quotedprintable", "uu",
     "zip", "zlib"]⟩, bytes),
  (⟨["big5"], ["big5_tw", "csbig5", "x_mac_trad_chinese"]⟩, eastAsian .big5),
  (⟨["big5hkscs"], ["big5_hkscs", "hkscs"]⟩, eastAsian .big5Extended),
  (⟨["cp932"], ["932", "ms932", "ms_kanji", "mskanji"]⟩, eastAsian .windows932),
  (⟨["cp949"], ["949", "ms949", "uhc"]⟩, eastAsian .windows949),
  (⟨["cp950"], ["950", "ms950"]⟩, eastAsian .windows950),
  (⟨["euc_jis_2004"], ["euc_jis2004", "eucjis2004", "jisx0213"]⟩, eastAsian .extendedJapanese2004),
  (⟨["euc_jisx0213"], ["eucjisx0213"]⟩, eastAsian .extendedJapanese2000),
  (⟨["euc_jp"], ["eucjp", "u_jis", "ujis"]⟩, eastAsian .extendedJapanese),
  (⟨["euc_kr"],
    ["euckr", "korean", "ks_c_5601", "ks_c_5601_1987", "ks_x_1001", "ksc5601", "ksx1001",
     "x_mac_korean"]⟩, eastAsian .extendedKorean),
  (⟨["gb18030"], ["gb18030_2000"]⟩, eastAsian .gb18030),
  (⟨["gb2312"],
    ["chinese", "csiso58gb231280", "euc_cn", "euccn", "eucgb2312_cn", "gb2312_1980", "gb2312_80",
     "iso_ir_58", "x_mac_simp_chinese"]⟩, eastAsian .gb2312),
  (⟨["gbk"], ["936", "cp936", "ms936"]⟩, eastAsian .gbk),
  (⟨["hz"], ["hz_gb", "hz_gb_2312", "hzgb"]⟩, eastAsian .hz),
  (⟨["iso2022_jp"], ["csiso2022jp", "iso2022jp", "iso_2022_jp"]⟩, eastAsian .japanese),
  (⟨["iso2022_jp_1"], ["iso2022jp_1", "iso_2022_jp_1"]⟩, eastAsian .japanese1),
  (⟨["iso2022_jp_2"], ["iso2022jp_2", "iso_2022_jp_2"]⟩, eastAsian .japanese2),
  (⟨["iso2022_jp_3"], ["iso2022jp_3", "iso_2022_jp_3"]⟩, eastAsian .japanese3),
  (⟨["iso2022_jp_2004"], ["iso2022jp_2004", "iso_2022_jp_2004"]⟩, eastAsian .japanese2004),
  (⟨["iso2022_jp_ext"], ["iso2022jp_ext", "iso_2022_jp_ext"]⟩, eastAsian .japaneseExtended),
  (⟨["iso2022_kr"], ["csiso2022kr", "iso2022kr", "iso_2022_kr"]⟩, eastAsian .korean),
  (⟨["johab"], ["cp1361", "ms1361"]⟩, eastAsian .johab),
  (⟨["shift_jis"], ["csshiftjis", "s_jis", "shiftjis", "sjis", "x_mac_japanese"]⟩,
    eastAsian .shiftJis),
  (⟨["shift_jis_2004"], ["s_jis_2004", "shiftjis2004", "sjis_2004"]⟩, eastAsian .shiftJis2004),
  (⟨["shift_jisx0213"], ["s_jisx0213", "shiftjisx0213", "sjisx0213"]⟩, eastAsian .shiftJis2000)]

/-- The way to write texts that goes by a name. -/
def ofName? (name : String) : Option Charset :=
  let plain := plainName name
  match (CodePage.extended ++ CodePage.rearranged).find? (·.has plain) with
  | some p => some (page p)
  | none => (named.find? (·.1.has plain)).map (·.2)

end Charset
end ScriptGrader.Text
