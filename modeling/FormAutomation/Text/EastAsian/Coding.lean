import FormAutomation.Text.EastAsian.Chinese
import FormAutomation.Text.EastAsian.Japanese
import FormAutomation.Text.EastAsian.Korean
import FormAutomation.Text.EastAsian.Switching

/-!
# East Asian character sets

The sets in which text from East Asia is written, with what each is called.
-/

namespace FormAutomation.Text.EastAsian

/-- A set for Chinese, Japanese or Korean. -/
inductive Coding where
  /-- Chinese as on Taiwan -/
  | big5
  /-- the same on windows -/
  | big5Windows
  /-- Chinese as in Hong Kong -/
  | hongKong
  /-- Chinese as on the mainland -/
  | gb2312
  /-- the same on windows -/
  | gbk
  /-- the same with every code point -/
  | gb18030
  /-- the same between tildes -/
  | tilde
  /-- Korean, other syllables spelled out -/
  | ks1001
  /-- Korean on windows -/
  | koreanWindows
  /-- Korean by sounds -/
  | bySounds
  /-- Japanese in eight bits -/
  | eight (sheets : Sheets)
  /-- Japanese in shifted rows -/
  | shifted (sheets : Sheets)
  /-- the same on windows -/
  | shiftedWindows
  /-- sequences that switch, for Japanese -/
  | japanese
  /-- the same with rarer words -/
  | japaneseMore
  /-- the same with other languages -/
  | manyLanguages
  /-- the same with narrow syllables -/
  | japaneseNarrow
  /-- the same on planes, as issued in the year 2000 -/
  | japanese2000
  /-- the same on planes, as issued in the year 2004 -/
  | japanese2004
  /-- the same for Korean -/
  | korean
  deriving DecidableEq

namespace Coding

/-- All sets: what each is called, and what else. -/
def all : List (Coding × String × List String) :=
  [(.big5, "big5", ["big5_tw", "csbig5", "x_mac_trad_chinese"]),
   (.hongKong, "big5hkscs", ["big5_hkscs", "hkscs"]),
   (.shiftedWindows, "cp932", ["932", "ms932", "mskanji", "ms_kanji"]),
   (.koreanWindows, "cp949", ["949", "ms949", "uhc"]),
   (.big5Windows, "cp950", ["950", "ms950"]),
   (.eight .issue2004, "euc_jis_2004", ["jisx0213", "eucjis2004", "euc_jis2004"]),
   (.eight .issue2000, "euc_jisx0213", ["eucjisx0213"]),
   (.eight .old, "euc_jp", ["eucjp", "ujis", "u_jis"]),
   (.ks1001, "euc_kr", ["euckr", "korean", "ksc5601", "ks_c_5601", "ks_c_5601_1987", "ksx1001",
     "ks_x_1001", "x_mac_korean"]),
   (.gb18030, "gb18030", ["gb18030_2000"]),
   (.gb2312, "gb2312", ["chinese", "csiso58gb231280", "euc_cn", "euccn", "eucgb2312_cn",
     "gb2312_1980", "gb2312_80", "iso_ir_58", "x_mac_simp_chinese"]),
   (.gbk, "gbk", ["936", "cp936", "ms936"]),
   (.tilde, "hz", ["hzgb", "hz_gb", "hz_gb_2312"]),
   (.japanese, "iso2022_jp", ["csiso2022jp", "iso2022jp", "iso_2022_jp"]),
   (.japaneseMore, "iso2022_jp_1", ["iso2022jp_1", "iso_2022_jp_1"]),
   (.manyLanguages, "iso2022_jp_2", ["iso2022jp_2", "iso_2022_jp_2"]),
   (.japanese2004, "iso2022_jp_2004", ["iso_2022_jp_2004", "iso2022jp_2004"]),
   (.japanese2000, "iso2022_jp_3", ["iso2022jp_3", "iso_2022_jp_3"]),
   (.japaneseNarrow, "iso2022_jp_ext", ["iso2022jp_ext", "iso_2022_jp_ext"]),
   (.korean, "iso2022_kr", ["csiso2022kr", "iso2022kr", "iso_2022_kr"]),
   (.bySounds, "johab", ["cp1361", "ms1361"]),
   (.shifted .old, "shift_jis", ["csshiftjis", "shiftjis", "sjis", "s_jis", "x_mac_japanese"]),
   (.shifted .issue2004, "shift_jis_2004", ["shiftjis2004", "sjis_2004", "s_jis_2004"]),
   (.shifted .issue2000, "shift_jisx0213", ["shiftjisx0213", "sjisx0213", "s_jisx0213"])]

/-- What is read of bytes. -/
def read : Coding → List UInt8 → Reading
  | .big5 => Reading.ofHeads (pairHead findBig5) ()
  | .big5Windows => Reading.ofHeads (pairHead findBig5Windows) ()
  | .hongKong => Reading.ofHeads (pairHead findHongKong) ()
  | .gb2312 => Reading.ofHeads (pairHead findGb2312) ()
  | .gbk => Reading.ofHeads (pairHead findGbk) ()
  | .gb18030 => Reading.ofHeads gb18030Head ()
  | .tilde => Reading.ofHeads tildeHead false
  | .ks1001 => Reading.ofHeads spellingHead ()
  | .koreanWindows => Reading.ofHeads (pairHead findKoreanWindows) ()
  | .bySounds => Reading.ofHeads (pairHead findBySounds) ()
  | .eight sheets => Reading.ofHeads (eightHead sheets) ()
  | .shifted sheets => Reading.ofHeads (shiftedHead sheets) ()
  | .shiftedWindows => Reading.ofHeads windowsHead ()
  | .japanese => Reading.ofHeads Repertoire.japanese.head {}
  | .japaneseMore => Reading.ofHeads Repertoire.japaneseMore.head {}
  | .manyLanguages => Reading.ofHeads Repertoire.manyLanguages.head {}
  | .japaneseNarrow => Reading.ofHeads Repertoire.japaneseNarrow.head {}
  | .japanese2000 => Reading.ofHeads Repertoire.japanese2000.head {}
  | .japanese2004 => Reading.ofHeads Repertoire.japanese2004.head {}
  | .korean => Reading.ofHeads Repertoire.korean.head {}

end Coding

end FormAutomation.Text.EastAsian
