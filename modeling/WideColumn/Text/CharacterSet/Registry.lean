import WideColumn.Text.CharacterSet.CodePage
import WideColumn.Text.CharacterSet.Desktop
import WideColumn.Text.CharacterSet.Regional
import WideColumn.Text.CharacterSet.Standard

/-!
The encodings that are known by name. A name is looked up without regard to case, and every run of
other signs counts as one underscore.
-/
namespace WideColumn.Text.CharacterSet

/-- Sets without an upper half. Those that switch to other sets by escapes are read without them. -/
def asciiSets : List NamedEncoding := [
  ⟨"ascii", ["ansi_x3.4_1968", "ansi_x3.4_1986", "ansi_x3_4_1968", "cp367", "csascii", "ibm367",
     "iso646_us", "iso_646.irv_1991", "iso_ir_6", "us", "us_ascii"], .single noUpper⟩,
  ⟨"utf_8", ["cp65001", "u8", "utf", "utf8", "utf8_ucs2", "utf8_ucs4"], .single noUpper⟩,
  ⟨"utf_8_sig", [], .single noUpper⟩,
  ⟨"hz", ["hz_gb", "hz_gb_2312", "hzgb"], .single noUpper [0x7e]⟩,
  ⟨"iso2022_jp", ["csiso2022jp", "iso2022jp", "iso_2022_jp"], .single noUpper⟩,
  ⟨"iso2022_jp_1", ["iso2022jp_1", "iso_2022_jp_1"], .single noUpper⟩,
  ⟨"iso2022_jp_2", ["iso2022jp_2", "iso_2022_jp_2"], .single noUpper⟩,
  ⟨"iso2022_jp_2004", ["iso2022jp_2004", "iso_2022_jp_2004"], .single noUpper⟩,
  ⟨"iso2022_jp_3", ["iso2022jp_3", "iso_2022_jp_3"], .single noUpper⟩,
  ⟨"iso2022_jp_ext", ["iso2022jp_ext", "iso_2022_jp_ext"], .single noUpper⟩]

def latinSets : List NamedEncoding := [
  ⟨"latin_1", ["cp819", "csisolatin1", "ibm819", "iso8859", "iso8859_1", "iso_8859_1",
     "iso_8859_1_1987", "iso_ir_100", "l1", "latin", "latin1"], .single latinUpper⟩,
  ⟨"charmap", [], .single latinUpper⟩,
  ⟨"raw_unicode_escape", [], .single latinUpper⟩,
  ⟨"unicode_escape", [], .single latinUpper⟩]

def wideEncodings : List NamedEncoding := [
  ⟨"big5", ["big5_tw", "csbig5", "x_mac_trad_chinese"], .wide⟩,
  ⟨"big5hkscs", ["big5_hkscs", "hkscs"], .wide⟩,
  ⟨"cp932", ["ms932", "ms_kanji", "mskanji"], .wide⟩,
  ⟨"cp949", ["ms949", "uhc"], .wide⟩,
  ⟨"cp950", ["ms950"], .wide⟩,
  ⟨"euc_jis_2004", ["euc_jis2004", "eucjis2004", "jisx0213"], .wide⟩,
  ⟨"euc_jisx0213", ["eucjisx0213"], .wide⟩,
  ⟨"euc_jp", ["eucjp", "u_jis", "ujis"], .wide⟩,
  ⟨"euc_kr", ["euckr", "korean", "ks_c_5601", "ks_c_5601_1987", "ks_x_1001", "ksc5601", "ksx1001",
     "x_mac_korean"], .wide⟩,
  ⟨"gb18030", ["gb18030_2000"], .wide⟩,
  ⟨"gb2312", ["chinese", "csiso58gb231280", "euc_cn", "euccn", "eucgb2312_cn", "gb2312_1980",
     "gb2312_80", "iso_ir_58", "x_mac_simp_chinese"], .wide⟩,
  ⟨"gbk", ["cp936", "ms936"], .wide⟩,
  ⟨"iso2022_kr", ["csiso2022kr", "iso2022kr", "iso_2022_kr"], .wide⟩,
  ⟨"johab", ["cp1361", "ms1361"], .wide⟩,
  ⟨"shift_jis", ["csshiftjis", "s_jis", "shiftjis", "sjis", "x_mac_japanese"], .wide⟩,
  ⟨"shift_jis_2004", ["s_jis_2004", "shiftjis2004", "sjis_2004"], .wide⟩,
  ⟨"shift_jisx0213", ["s_jisx0213", "shiftjisx0213", "sjisx0213"], .wide⟩,
  ⟨"utf_16", ["u16", "utf16"], .wide⟩,
  ⟨"utf_16_be", ["unicodebigunmarked", "utf_16be"], .wide⟩,
  ⟨"utf_16_le", ["unicodelittleunmarked", "utf_16le"], .wide⟩,
  ⟨"utf_32", ["u32", "utf32"], .wide⟩,
  ⟨"utf_32_be", ["utf_32be"], .wide⟩,
  ⟨"utf_32_le", ["utf_32le"], .wide⟩,
  ⟨"utf_7", ["u7", "unicode_1_1_utf_7", "utf7"], .wide⟩]

/-- Sets that have other characters in the place of signs that markup needs. -/
def unfitSets : List NamedEncoding := [
  ⟨"cp037", ["csibm037", "ebcdic_cp_ca", "ebcdic_cp_nl", "ebcdic_cp_us", "ebcdic_cp_wt", "ibm037",
     "ibm039"], .unfit⟩,
  ⟨"cp1026", ["csibm1026", "ibm1026"], .unfit⟩,
  ⟨"cp1140", ["ibm1140"], .unfit⟩,
  ⟨"cp273", ["csibm273", "ibm273"], .unfit⟩,
  ⟨"cp424", ["csibm424", "ebcdic_cp_he", "ibm424"], .unfit⟩,
  ⟨"cp500", ["csibm500", "ebcdic_cp_be", "ebcdic_cp_ch", "ibm500"], .unfit⟩,
  ⟨"cp864", ["csibm864", "ibm864"], .unfit⟩,
  ⟨"cp875", [], .unfit⟩,
  ⟨"mac_arabic", [], .unfit⟩,
  ⟨"mac_farsi", [], .unfit⟩]

def otherEncodings : List NamedEncoding := [
  ⟨"base64_codec", ["base64", "base_64"], .transform⟩,
  ⟨"bz2_codec", ["bz2"], .transform⟩,
  ⟨"hex_codec", ["hex"], .transform⟩,
  ⟨"quopri_codec", ["quopri", "quoted_printable", "quotedprintable"], .transform⟩,
  ⟨"rot_13", ["rot13"], .transform⟩,
  ⟨"uu_codec", ["uu"], .transform⟩,
  ⟨"zlib_codec", ["zip", "zlib"], .transform⟩,
  ⟨"idna", [], .strict "Unsupported error handling replace"⟩,
  ⟨"undefined", [], .strict "undefined encoding"⟩,
  ⟨"punycode", [], .asciiOnly⟩]

def all : List NamedEncoding :=
  asciiSets ++ latinSets ++ standardSets ++ desktopSets ++ codePages ++ regionalSets ++
    wideEncodings ++ unfitSets ++ otherEncodings

/-- A name in lower case with an underscore for every run of signs between letters, digits and dots,
where `joined` says whether such a run stands before the text. -/
def normaliseAfter (joined : Bool) : List Char → List Char
  | [] => []
  | c :: rest =>
    if c.isAlphanum || c = '.' then
      (if joined then ['_', c.toLower] else [c.toLower]) ++ normaliseAfter false rest
    else normaliseAfter true rest

def normalise (name : List Char) : String :=
  String.ofList (normaliseAfter false (name.dropWhile fun c => !(c.isAlphanum || c = '.')))

def aliased? (name : String) : Option NamedEncoding := all.find? (·.aliases.contains name)

/-- What a name stands for. Dots may stand for underscores in other names. -/
def find? (name : List Char) : Option Meaning :=
  let name := normalise name
  let undotted := String.ofList (name.toList.map fun c => if c = '.' then '_' else c)
  ((aliased? name <|> aliased? undotted) <|> all.find? (·.name = name)).map (·.meaning)

end WideColumn.Text.CharacterSet
