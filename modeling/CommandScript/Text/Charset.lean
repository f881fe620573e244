import CommandScript.Text.Charset.Big5
import CommandScript.Text.Charset.CodePage
import CommandScript.Text.Charset.Escaped
import CommandScript.Text.Charset.Punycode
import CommandScript.Text.Charset.Switched
import CommandScript.Text.Charset.Utf7

/-!
# Character sets

The character sets in which a payload may be written, their many names, and lenient reading: what
a character set cannot read becomes a replacement character. Only few character sets refuse bytes.

## Main definitions

- `CommandScript.Text.Charset` — a character set
- `CommandScript.Text.Charset.named?` — the character set with a given name
- `CommandScript.Text.Charset.decode` — the text of bytes in a character set
- `CommandScript.Text.Charset.Refusal` — why bytes are not read

## Design notes

Names are compared in lower case with every run of other characters than letters, digits and
points taken as one underscore, so `ISO-8859-1`, `iso_8859_1` and `"iso 8859 1"` are one name. In
other names than the first of a character set, points may also stand for underscores.
-/

namespace CommandScript.Text

open Charset in
/-- A character set. -/
inductive Charset where
  | utf8
  | utf8Marked
  | utf16 (order : Option ByteOrder)
  | utf32 (order : Option ByteOrder)
  | utf7
  | ascii
  | latin1
  | codePage (p : CodePage)
  /-- Steps in which a character takes one byte or more. -/
  | stepped (step : UInt8 → List UInt8 → Reading)
  /-- Escape sequences that switch between character sets. -/
  | switched (r : Repertoire)
  /-- Tildes that switch to GB 2312 and back. -/
  | tildes
  | punycode
  /-- A character set that refuses all bytes, with the reason that it gives. -/
  | refusing (reason : String)

namespace Charset

/-- A charset name without the distinctions that do not matter; `gap` says that a separator has
been passed since the last kept character. -/
def normalName (gap : Bool) (kept : List Char) : List Char → List Char
  | [] => kept.reverse
  | c :: cs =>
    if c.isAlphanum ∨ c = '.' then
      normalName false (c.toLower :: (if gap ∧ kept ≠ [] then '_' :: kept else kept)) cs
    else normalName true kept cs

/-- A character set with its names, the first of which is its own. -/
structure Named where
  charset : Charset
  name : String
  aliases : List String

/-- A character set in which at most two bytes make up a character and one byte is in ASCII. -/
def ofPairs (pair : Nat → Nat → Option (List Char)) : Charset :=
  .stepped (Reading.pairs Reading.ascii? pair)

/-- A character set in which at most two bytes make up a character and one byte is in ASCII. -/
def ofCharPairs (pair : Nat → Nat → Option Char) : Charset :=
  ofPairs fun a b => (pair a b).map fun c => [c]

/-- The character sets of Unicode and those for a single byte that are no code pages. -/
def universal : List Named :=
  [⟨.utf8, "utf_8", ["utf8", "u8", "utf", "utf8_ucs2", "utf8_ucs4", "cp65001"]⟩,
    ⟨.utf8Marked, "utf_8_sig", []⟩,
    ⟨.utf16 none, "utf_16", ["utf16", "u16"]⟩,
    ⟨.utf16 (some .little), "utf_16_le", ["utf_16le", "unicodelittleunmarked"]⟩,
    ⟨.utf16 (some .big), "utf_16_be", ["utf_16be", "unicodebigunmarked"]⟩,
    ⟨.utf32 none, "utf_32", ["utf32", "u32"]⟩,
    ⟨.utf32 (some .little), "utf_32_le", ["utf_32le"]⟩,
    ⟨.utf32 (some .big), "utf_32_be", ["utf_32be"]⟩,
    ⟨.utf7, "utf_7", ["u7", "utf7", "unicode_1_1_utf_7"]⟩,
    ⟨.ascii, "ascii", ["646", "ansi_x3.4_1968", "ansi_x3_4_1968", "ansi_x3.4_1986", "cp367",
      "csascii", "ibm367", "iso646_us", "iso_646.irv_1991", "iso_ir_6", "us", "us_ascii"]⟩,
    ⟨.latin1, "latin_1", ["8859", "cp819", "csisolatin1", "ibm819", "iso8859", "iso8859_1",
      "iso_8859_1", "iso_8859_1_1987", "iso_ir_100", "l1", "latin", "latin1"]⟩,
    ⟨.latin1, "charmap", []⟩,
    ⟨.stepped escapedStep, "unicode_escape", []⟩,
    ⟨.stepped numberedStep, "raw_unicode_escape", []⟩,
    ⟨.punycode, "punycode", []⟩,
    ⟨.refusing "Unsupported error handling replace", "idna", []⟩,
    ⟨.refusing "undefined encoding", "undefined", []⟩]

/-- The character sets of China and Korea. -/
def continental : List Named :=
  [⟨ofCharPairs Gb.pair?, "gb2312", ["chinese", "csiso58gb231280", "euc_cn", "euccn",
      "eucgb2312_cn", "gb2312_1980", "gb2312_80", "iso_ir_58", "x_mac_simp_chinese"]⟩,
    ⟨ofCharPairs Gb.national?, "gbk", ["936", "cp936", "ms936"]⟩,
    ⟨.stepped Gb.step, "gb18030", ["gb18030_2000"]⟩,
    ⟨.tildes, "hz", ["hzgb", "hz_gb", "hz_gb_2312"]⟩,
    ⟨ofCharPairs Big5.pair?, "big5", ["big5_tw", "csbig5", "x_mac_trad_chinese"]⟩,
    ⟨ofCharPairs Big5.windows?, "cp950", ["950", "ms950"]⟩,
    ⟨ofPairs Big5.hongKong?, "big5hkscs", ["big5_hkscs", "hkscs"]⟩,
    ⟨.stepped Ks.step, "euc_kr", ["euckr", "korean", "ksc5601", "ks_c_5601", "ks_c_5601_1987",
      "ksx1001", "ks_x_1001", "x_mac_korean"]⟩,
    ⟨ofCharPairs Ks.unified?, "cp949", ["949", "ms949", "uhc"]⟩,
    ⟨ofCharPairs Ks.combining?, "johab", ["cp1361", "ms1361"]⟩,
    ⟨.switched koreanRepertoire, "iso2022_kr", ["csiso2022kr", "iso2022kr", "iso_2022_kr"]⟩]

/-- The character sets of Japan. -/
def insular : List Named :=
  [⟨.stepped Jis.extendedStep, "euc_jp", ["eucjp", "ujis", "u_jis"]⟩,
    ⟨.stepped (Jis.planesStep false), "euc_jis_2004", ["jisx0213", "eucjis2004", "euc_jis2004"]⟩,
    ⟨.stepped (Jis.planesStep true), "euc_jisx0213", ["eucjisx0213"]⟩,
    ⟨.stepped Jis.sharedStep, "shift_jis", ["csshiftjis", "shiftjis", "sjis", "s_jis",
      "x_mac_japanese"]⟩,
    ⟨.stepped (Jis.sharedPlanesStep false), "shift_jis_2004", ["shiftjis2004", "sjis_2004",
      "s_jis_2004"]⟩,
    ⟨.stepped (Jis.sharedPlanesStep true), "shift_jisx0213", ["shiftjisx0213", "sjisx0213",
      "s_jisx0213"]⟩,
    ⟨.stepped Jis.windowsStep, "cp932", ["932", "ms932", "mskanji", "ms_kanji"]⟩,
    ⟨.switched japaneseRepertoire, "iso2022_jp", ["csiso2022jp", "iso2022jp", "iso_2022_jp"]⟩,
    ⟨.switched supplementRepertoire, "iso2022_jp_1", ["iso2022jp_1", "iso_2022_jp_1"]⟩,
    ⟨.switched multilingualRepertoire, "iso2022_jp_2", ["iso2022jp_2", "iso_2022_jp_2"]⟩,
    ⟨.switched (planesRepertoire true), "iso2022_jp_3", ["iso2022jp_3", "iso_2022_jp_3"]⟩,
    ⟨.switched (planesRepertoire false), "iso2022_jp_2004", ["iso_2022_jp_2004",
      "iso2022jp_2004"]⟩,
    ⟨.switched katakanaRepertoire, "iso2022_jp_ext", ["iso2022jp_ext", "iso_2022_jp_ext"]⟩]

/-- All character sets. -/
def all : List Named :=
  universal ++ continental ++ insular ++ codePages.map fun p => ⟨.codePage p, p.name, p.aliases⟩

/-- A name with underscores in place of points. -/
def withoutPoints (name : String) : String :=
  String.ofList (name.toList.map fun c => if c = '.' then '_' else c)

/-- The character set with the given name. -/
def named? (name : List Char) : Option Charset :=
  let key := String.ofList (normalName false [] name)
  let other := withoutPoints key
  (all.find? fun n => n.name == key || n.aliases.contains key || n.aliases.contains other).map
    (·.charset)

/-- Why bytes are not read. -/
inductive Refusal where
  /-- A character set, by the name that was given, refuses all bytes. -/
  | unusable (name reason : String)
  /-- A byte at a position is not in ASCII. -/
  | notAscii (byte : UInt8) (position : Nat)
  /-- A name of a character set with a null character in it. -/
  | nullInName
  deriving DecidableEq, Repr

namespace Refusal

/-- The word for the kind of a refusal. -/
def kind : Refusal → String
  | .unusable .. => "UnicodeError"
  | .notAscii .. => "UnicodeDecodeError"
  | .nullInName => "ValueError"

/-- The wording of a refusal. -/
def message : Refusal → String
  | .unusable name reason =>
    "decoding with '" ++ name ++ "' codec failed (UnicodeError: " ++ reason ++ ")"
  | .notAscii b i =>
    "'ascii' codec can't decode byte 0x" ++ String.ofList (hexDigits 2 b.toNat) ++
      " in position " ++ toString i ++ ": ordinal not in range(128)"
  | .nullInName => "embedded null character"

end Refusal

/-- The text of bytes in a character set that was given by a name. -/
def decode (name : String) (bs : List UInt8) : Charset → Except Refusal (List Char)
  | .utf8 => .ok (Utf8.decodeLossy bs)
  | .utf8Marked =>
    match bs with
    | 0xef :: 0xbb :: 0xbf :: rest => .ok (Utf8.decodeLossy rest)
    | _ => .ok (Utf8.decodeLossy bs)
  | .utf16 none => .ok (decodeMarked16 bs)
  | .utf16 (some order) => .ok (decodeUnits16 order bs)
  | .utf32 none => .ok (decodeMarked32 bs)
  | .utf32 (some order) => .ok (decodeUnits32 order bs)
  | .utf7 => .ok (decodeUtf7 bs)
  | .ascii => .ok (bs.map plainByte)
  | .latin1 => .ok (bs.map fun b => Char.ofNat b.toNat)
  | .codePage p => .ok (p.decode bs)
  | .stepped step => .ok (Reading.runPlain step bs)
  | .switched r => .ok (Reading.run r.step .start bs)
  | .tildes => .ok (Reading.run tildeStep false bs)
  | .punycode => (Punycode.decode bs).mapError fun e => .notAscii e.byte e.position
  | .refusing reason => if bs.isEmpty then .ok [] else .error (.unusable name reason)

end Charset

end CommandScript.Text
