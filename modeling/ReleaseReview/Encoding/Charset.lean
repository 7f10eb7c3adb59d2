import ReleaseReview.Encoding.CodePage
import ReleaseReview.Markup.Reader

/-!
# Character sets

A character set is known by its names, in lower case. A text that came as bytes can be read again in
another character set: its UTF-8 bytes are then characters of a code page.
-/

namespace ReleaseReview.Encoding

/-- How the characters of a text are written as bytes. -/
inductive Charset where
  | utf8
  /-- One byte for each character. -/
  | page (page : CodePage)
  /-- Two bytes or more for each character. -/
  | wide

/-- The code pages and their names. -/
def pageNames : List (CodePage × List String) :=
  [(ascii, ["ascii", "us-ascii", "iso646-us", "iso-ir-6", "ansi_x3.4-1968", "ansi_x3.4-1986",
     "cp367", "ibm367", "us", "csascii"]),
   (isoWestern, ["iso-8859-1", "iso_8859-1", "iso8859-1", "iso-latin-1", "iso-ir-100", "cp819",
     "ibm819", "latin1", "l1", "csisolatin1"]),
   (isoCentral, ["iso-8859-2", "iso_8859-2", "iso8859-2", "iso-latin-2", "iso-ir-101", "latin2",
     "l2", "csisolatin2"]),
   (isoSouth, ["iso-8859-3", "iso_8859-3", "iso8859-3", "iso-ir-109", "latin3", "l3",
     "csisolatin3"]),
   (isoNorth, ["iso-8859-4", "iso_8859-4", "iso8859-4", "iso-ir-110", "latin4", "l4",
     "csisolatin4"]),
   (isoCyrillic, ["iso-8859-5", "iso_8859-5", "iso8859-5", "iso-ir-144", "cyrillic",
     "csisolatincyrillic"]),
   (isoArabic, ["iso-8859-6", "iso_8859-6", "iso8859-6", "iso-ir-127", "arabic", "ecma-114",
     "asmo-708", "csisolatinarabic"]),
   (isoGreek, ["iso-8859-7", "iso_8859-7", "iso8859-7", "iso-ir-126", "greek", "greek8",
     "ecma-118", "elot_928", "csisolatingreek"]),
   (isoHebrew, ["iso-8859-8", "iso_8859-8", "iso8859-8", "iso-ir-138", "hebrew",
     "csisolatinhebrew"]),
   (isoTurkish, ["iso-8859-9", "iso_8859-9", "iso8859-9", "iso-ir-148", "latin5", "l5",
     "csisolatin5"]),
   (isoNordic, ["iso-8859-10", "iso_8859-10", "iso8859-10", "iso-ir-157", "latin6", "l6",
     "csisolatin6"]),
   (isoThai, ["iso-8859-11", "iso_8859-11", "iso8859-11", "tis-620", "tis620"]),
   (isoBaltic, ["iso-8859-13", "iso_8859-13", "iso8859-13", "iso-ir-179", "latin7", "l7"]),
   (isoCeltic, ["iso-8859-14", "iso_8859-14", "iso8859-14", "iso-ir-199", "latin8", "l8",
     "iso-celtic"]),
   (isoEuro, ["iso-8859-15", "iso_8859-15", "iso8859-15", "iso-ir-203", "latin-9"]),
   (isoBalkan, ["iso-8859-16", "iso_8859-16", "iso8859-16", "iso-ir-226", "latin10", "l10"]),
   (windowsCentral, ["windows-1250", "cp1250", "ms-ee"]),
   (windowsCyrillic, ["windows-1251", "cp1251", "ms-cyrl"]),
   (windowsWestern, ["windows-1252", "cp1252", "ms-ansi"]),
   (windowsGreek, ["windows-1253", "cp1253", "ms-greek"]),
   (windowsTurkish, ["windows-1254", "cp1254", "ms-turk"]),
   (windowsHebrew, ["windows-1255", "cp1255", "ms-hebr"]),
   (windowsArabic, ["windows-1256", "cp1256", "ms-arab"]),
   (windowsBaltic, ["windows-1257", "cp1257", "winbaltrim"]),
   (windowsVietnamese, ["windows-1258", "cp1258"]),
   (windowsThai, ["windows-874", "cp874"]),
   (koiRussian, ["koi8-r", "cskoi8r"]),
   (koiUkrainian, ["koi8-u"]),
   (dosWestern, ["cp850", "850", "ibm850", "cspc850multilingual"]),
   (dosCyrillic, ["cp866", "866", "ibm866", "csibm866"]),
   (macWestern, ["macintosh", "mac", "macroman", "csmacintosh"])]

/-- Names of character sets with two bytes or more for each character. -/
def wideNames : List String :=
  ["utf-16", "utf16", "utf-16le", "utf-16be", "utf-32", "utf-32le", "utf-32be", "ucs-2", "ucs2",
   "ucs-2le", "ucs-2be", "ucs-4", "ucs4", "ucs-4le", "ucs-4be", "iso-10646-ucs-2",
   "iso-10646-ucs-4"]

namespace Charset

/-- The character set of a name; UTF-8 if the name is not known. -/
def named (name : String) : Charset :=
  if wideNames.contains name then .wide
  else
    match pageNames.find? fun (_, names) => names.contains name with
    | some (found, _) => .page found
    | none => .utf8

end Charset

/-- The characters of bytes on a page, and whether every byte has one; the characters stop before
the first that has none. -/
def CodePage.decode (page : CodePage) (bytes : List UInt8) : List Char × Bool :=
  let chars := bytes.map fun b => page.char? b.toNat
  ((chars.takeWhile Option.isSome).filterMap id, chars.all Option.isSome)

/-- What the bytes of a text of markup say in a character set. At a byte that says nothing the text
breaks off, and only its whole pieces count. There is no markup in a text of wide characters. -/
def Charset.reread (text : String) : Charset → String
  | .utf8 => text
  | .page codes =>
    match codes.decode text.toUTF8.toList with
    | (cs, true) => String.ofList cs
    | (cs, false) => String.ofList (Markup.wholePieces cs)
  | .wide => ""

end ReleaseReview.Encoding
