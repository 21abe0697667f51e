import MacroDoc.Xml.WellFormed.Codec

/-!
# Character sets a part may declare

A part read as a document package may declare its encoding. The package reader knows a
name when its own converters know it (UTF-8, UTF-16 in its three forms, ISO-8859-1, ASCII
and US-ASCII, and HTML), when the general converter it relies on knows it, or when the name
is one of a few older spellings of a known one (`UTF8`, `UTF16`, `UCS2`, `UCS4`,
`ISO-LATIN-1`, `ISO-LATIN-2`). Names are compared without regard to ASCII case. A name the
reader does not know is refused where the declaration names it.

The general converter knows each charset by a short list of names, given here group by
group. Only some of its charsets matter for how a part is read afterwards:

* UTF-8 under its names, and ASCII, read as UTF-8 (their bytes below `0x80` agree);
* ISO-8859-1, one character a byte;
* one-byte charsets of which a table is known, read through the table;
* UTF-16 and its two byte orders, two bytes a unit;
* every other charset is read as UTF-8: its ASCII bytes stand for themselves, which is all
  that the markup itself needs.

## Main definitions

* `Xml.Charset`: how the bytes after a declaration are read.
* `Xml.charsetOfName?`: the charset a declared name gives, if the reader knows the name.
-/

namespace MacroDoc.Xml

/-- How the bytes of a charset are read. -/
inductive Charset where
  | utf8
  | latin1
  /-- A one-byte charset, by the name of its known table. -/
  | oneByte (table : String)
  /-- UTF-16, little-endian unless the byte order says otherwise. -/
  | utf16 (bigEndian : Bool)
  deriving DecidableEq, Repr

/-- A text in ASCII upper case. -/
def upperAscii (s : String) : String := String.ofList (s.toList.map Char.toUpper)

/-- The names the reader's own converters know, upper case. -/
def ownCharsets : List (String × Charset) :=
  [("UTF-8", .utf8), ("UTF-16LE", .utf16 false), ("UTF-16BE", .utf16 true),
   ("UTF-16", .utf16 false), ("ISO-8859-1", .latin1), ("ASCII", .utf8), ("US-ASCII", .utf8),
   ("HTML", .utf8)]

/-- The charsets of the general converter, each with its names, upper case. -/
def convertedCharsets : List (List String × Charset) :=
  [(["US-ASCII", "ASCII", "ISO646-US", "ISO_646.IRV:1991", "ISO-IR-6", "ANSI_X3.4-1968",
     "ANSI_X3.4-1986", "CP367", "IBM367", "US", "CSASCII"], .utf8),
   (["UTF-8"], .utf8),
   (["UCS-2", "ISO-10646-UCS-2", "CSUNICODE"], .utf8),
   (["UCS-2BE", "UNICODEBIG", "UNICODE-1-1", "CSUNICODE11"], .utf8),
   (["UCS-2LE", "UNICODELITTLE"], .utf8),
   (["UCS-4", "ISO-10646-UCS-4", "CSUCS4"], .utf8), (["UCS-4BE"], .utf8),
   (["UCS-4LE"], .utf8), (["UTF-16"], .utf16 false), (["UTF-16BE"], .utf16 true),
   (["UTF-16LE"], .utf16 false), (["UTF-32"], .utf8), (["UTF-32BE"], .utf8),
   (["UTF-32LE"], .utf8), (["UTF-7", "UNICODE-1-1-UTF-7", "CSUNICODE11UTF7"], .utf8),
   (["UCS-2-INTERNAL"], .utf8), (["UCS-2-SWAPPED"], .utf8), (["UCS-4-INTERNAL"], .utf8),
   (["UCS-4-SWAPPED"], .utf8), (["C99"], .utf8), (["JAVA"], .utf8),
   (["ISO-8859-1", "ISO_8859-1", "ISO_8859-1:1987", "ISO-IR-100", "CP819", "IBM819",
     "LATIN1", "L1", "CSISOLATIN1", "ISO8859-1"], .latin1),
   (["ISO-8859-2", "ISO_8859-2", "ISO_8859-2:1987", "ISO-IR-101", "LATIN2", "L2",
     "CSISOLATIN2", "ISO8859-2"], .oneByte "iso8859_2"),
   (["ISO-8859-3", "ISO_8859-3", "ISO_8859-3:1988", "ISO-IR-109", "LATIN3", "L3",
     "CSISOLATIN3", "ISO8859-3"], .oneByte "iso8859_3"),
   (["ISO-8859-4", "ISO_8859-4", "ISO_8859-4:1988", "ISO-IR-110", "LATIN4", "L4",
     "CSISOLATIN4", "ISO8859-4"], .oneByte "iso8859_4"),
   (["ISO-8859-5", "ISO_8859-5", "ISO_8859-5:1988", "ISO-IR-144", "CYRILLIC",
     "CSISOLATINCYRILLIC", "ISO8859-5"], .oneByte "iso8859_5"),
   (["ISO-8859-6", "ISO_8859-6", "ISO_8859-6:1987", "ISO-IR-127", "ECMA-114", "ASMO-708",
     "ARABIC", "CSISOLATINARABIC", "ISO8859-6"], .oneByte "iso8859_6"),
   (["ISO-8859-7", "ISO_8859-7", "ISO_8859-7:1987", "ISO_8859-7:2003", "ISO-IR-126",
     "ECMA-118", "ELOT_928", "GREEK8", "GREEK", "CSISOLATINGREEK", "ISO8859-7"],
     .oneByte "iso8859_7"),
   (["ISO-8859-8", "ISO_8859-8", "ISO_8859-8:1988", "ISO-IR-138", "HEBREW",
     "CSISOLATINHEBREW", "ISO8859-8"], .oneByte "iso8859_8"),
   (["ISO-8859-9", "ISO_8859-9", "ISO_8859-9:1989", "ISO-IR-148", "LATIN5", "L5",
     "CSISOLATIN5", "ISO8859-9"], .oneByte "iso8859_9"),
   (["ISO-8859-10", "ISO_8859-10", "ISO_8859-10:1992", "ISO-IR-157", "LATIN6", "L6",
     "CSISOLATIN6", "ISO8859-10"], .oneByte "iso8859_10"),
   (["ISO-8859-11", "ISO_8859-11", "ISO8859-11"], .oneByte "iso8859_11"),
   (["ISO-8859-13", "ISO_8859-13", "ISO-IR-179", "LATIN7", "L7", "ISO8859-13"],
     .oneByte "iso8859_13"),
   (["ISO-8859-14", "ISO_8859-14", "ISO_8859-14:1998", "ISO-IR-199", "LATIN8", "L8",
     "ISO-CELTIC", "ISO8859-14"], .oneByte "iso8859_14"),
   (["ISO-8859-15", "ISO_8859-15", "ISO_8859-15:1998", "ISO-IR-203", "LATIN-9",
     "ISO8859-15"], .oneByte "iso8859_15"),
   (["ISO-8859-16", "ISO_8859-16", "ISO_8859-16:2001", "ISO-IR-226", "LATIN10", "L10",
     "ISO8859-16"], .oneByte "iso8859_16"),
   (["KOI8-R", "CSKOI8R"], .oneByte "koi8_r"), (["KOI8-U"], .oneByte "koi8_u"),
   (["KOI8-RU"], .utf8),
   (["CP1250", "WINDOWS-1250", "MS-EE"], .oneByte "cp1250"),
   (["CP1251", "WINDOWS-1251", "MS-CYRL"], .oneByte "cp1251"),
   (["CP1252", "WINDOWS-1252", "MS-ANSI"], .oneByte "cp1252"),
   (["CP1253", "WINDOWS-1253", "MS-GREEK"], .oneByte "cp1253"),
   (["CP1254", "WINDOWS-1254", "MS-TURK"], .oneByte "cp1254"),
   (["CP1255", "WINDOWS-1255", "MS-HEBR"], .oneByte "cp1255"),
   (["CP1256", "WINDOWS-1256", "MS-ARAB"], .oneByte "cp1256"),
   (["CP1257", "WINDOWS-1257", "WINBALTRIM"], .oneByte "cp1257"),
   (["CP1258", "WINDOWS-1258"], .oneByte "cp1258"),
   (["CP850", "IBM850", "850", "CSPC850MULTILINGUAL"], .oneByte "cp850"),
   (["CP862", "IBM862", "862", "CSPC862LATINHEBREW"], .oneByte "cp862"),
   (["CP866", "IBM866", "866", "CSIBM866"], .oneByte "cp866"),
   (["CP1131"], .utf8),
   (["MACROMAN", "MACINTOSH", "MAC", "CSMACINTOSH"], .oneByte "mac_roman"),
   (["MACCENTRALEUROPE"], .oneByte "mac_latin2"), (["MACICELAND"], .oneByte "mac_iceland"),
   (["MACCROATIAN"], .oneByte "mac_croatian"), (["MACROMANIA"], .oneByte "mac_romanian"),
   (["MACCYRILLIC"], .oneByte "mac_cyrillic"), (["MACUKRAINE"], .utf8),
   (["MACGREEK"], .oneByte "mac_greek"), (["MACTURKISH"], .oneByte "mac_turkish"),
   (["MACHEBREW"], .utf8), (["MACARABIC"], .utf8), (["MACTHAI"], .utf8),
   (["HP-ROMAN8", "ROMAN8", "R8", "CSHPROMAN8"], .oneByte "hp_roman8"),
   (["NEXTSTEP"], .utf8), (["ARMSCII-8"], .utf8), (["GEORGIAN-ACADEMY"], .utf8),
   (["GEORGIAN-PS"], .utf8), (["KOI8-T"], .oneByte "koi8_t"),
   (["PT154", "PTCP154", "CP154", "CYRILLIC-ASIAN", "CSPTCP154"], .oneByte "ptcp154"),
   (["RK1048", "STRK1048-2002", "KZ-1048", "CSKZ1048"], .oneByte "kz1048"),
   (["MULELAO-1"], .utf8), (["CP1133", "IBM-CP1133"], .utf8),
   (["TIS-620", "TIS620", "TIS620-0", "TIS620.2529-1", "TIS620.2533-0", "TIS620.2533-1",
     "ISO-IR-166"], .oneByte "tis_620"),
   (["CP874", "WINDOWS-874"], .oneByte "cp874"),
   (["VISCII", "VISCII1.1-1", "CSVISCII"], .utf8),
   (["TCVN", "TCVN-5712", "TCVN5712-1", "TCVN5712-1:1993"], .utf8),
   (["JIS_C6220-1969-RO", "ISO646-JP", "ISO-IR-14", "JP", "CSISO14JISC6220RO"], .utf8),
   (["JIS_X0201", "JISX0201-1976", "X0201", "CSHALFWIDTHKATAKANA"], .utf8),
   (["JIS_X0208", "JIS_X0208-1983", "JIS_X0208-1990", "JIS0208", "X0208", "ISO-IR-87",
     "JIS_C6226-1983", "CSISO87JISX0208"], .utf8),
   (["JIS_X0212", "JIS_X0212.1990-0", "JIS_X0212-1990", "X0212", "ISO-IR-159",
     "CSISO159JISX02121990"], .utf8),
   (["GB_1988-80", "ISO646-CN", "ISO-IR-57", "CN", "CSISO57GB1988"], .utf8),
   (["GB_2312-80", "ISO-IR-58", "CSISO58GB231280", "CHINESE"], .utf8),
   (["ISO-IR-165", "CN-GB-ISOIR165"], .utf8),
   (["KSC_5601", "KS_C_5601-1987", "KS_C_5601-1989", "ISO-IR-149", "CSKSC56011987",
     "KOREAN"], .utf8),
   (["EUC-JP", "EUCJP", "EXTENDED_UNIX_CODE_PACKED_FORMAT_FOR_JAPANESE",
     "CSEUCPKDFMTJAPANESE"], .utf8),
   (["SHIFT_JIS", "SHIFT-JIS", "SJIS", "MS_KANJI", "CSSHIFTJIS"], .utf8), (["CP932"], .utf8),
   (["ISO-2022-JP", "CSISO2022JP"], .utf8), (["ISO-2022-JP-1"], .utf8),
   (["ISO-2022-JP-2", "CSISO2022JP2"], .utf8),
   (["EUC-CN", "EUCCN", "GB2312", "CN-GB", "CSGB2312"], .utf8), (["GBK"], .utf8),
   (["CP936", "MS936", "WINDOWS-936"], .utf8), (["GB18030"], .utf8),
   (["ISO-2022-CN", "CSISO2022CN"], .utf8), (["ISO-2022-CN-EXT"], .utf8),
   (["HZ", "HZ-GB-2312"], .utf8), (["EUC-TW", "EUCTW", "CSEUCTW"], .utf8),
   (["BIG5", "BIG-5", "BIG-FIVE", "BIGFIVE", "CN-BIG5", "CSBIG5"], .utf8), (["CP950"], .utf8),
   (["BIG5-HKSCS:1999"], .utf8), (["BIG5-HKSCS:2001"], .utf8), (["BIG5-HKSCS:2004"], .utf8),
   (["BIG5-HKSCS", "BIG5HKSCS", "BIG5-HKSCS:2008"], .utf8),
   (["EUC-KR", "EUCKR", "CSEUCKR"], .utf8), (["CP949", "UHC"], .utf8),
   (["JOHAB", "CP1361"], .utf8), (["ISO-2022-KR", "CSISO2022KR"], .utf8),
   (["CHAR"], .utf8), (["WCHAR_T"], .utf8)]

/-- Older spellings of known names, upper case, with the name they stand for. -/
def olderSpellings : List (String × String) :=
  [("UTF8", "UTF-8"), ("UTF16", "UTF-16"), ("UCS2", "ISO-10646-UCS-2"),
   ("UCS4", "ISO-10646-UCS-4"), ("ISO-LATIN-1", "ISO-8859-1"), ("ISO-LATIN-2", "ISO-8859-2")]

/-- The charset of a known upper-case name, without older spellings. -/
def charsetOfKnown? (upper : String) : Option Charset :=
  (ownCharsets.lookup upper).orElse fun _ =>
    (convertedCharsets.find? (·.1.contains upper)).map (·.2)

/-- The charset a declared name gives, if the reader knows the name. -/
def charsetOfName? (name : String) : Option Charset :=
  let upper := upperAscii name
  (charsetOfKnown? upper).orElse fun _ =>
    (olderSpellings.lookup upper).bind charsetOfKnown?

/-- The table of a one-byte charset: the code point of each byte, `-1` for none. -/
def oneByteTable (table : String) : Array Int :=
  match WellFormed.lookupCodec table with
  | .single index => WellFormed.codecTable index
  | _ => (List.range 256).toArray.map (fun (n : Nat) => (n : Int))

end MacroDoc.Xml
