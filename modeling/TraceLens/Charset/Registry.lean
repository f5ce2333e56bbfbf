import TraceLens.Charset.Chinese
import TraceLens.Charset.CodePage.Dos
import TraceLens.Charset.CodePage.Ebcdic
import TraceLens.Charset.CodePage.Koi8
import TraceLens.Charset.CodePage.Macintosh
import TraceLens.Charset.CodePage.Windows
import TraceLens.Charset.DomainLabel
import TraceLens.Charset.Escaped
import TraceLens.Charset.Iso2022
import TraceLens.Charset.Korean
import TraceLens.Charset.Utf7
import TraceLens.Text.Utf8

/-!
# The known character sets

Every character set with its names, and the set that a name stands for. Names are compared without
regard to case and to the signs between their words.
-/

namespace TraceLens.Charset

def decodeUtf8 (bytes : List UInt8) : Except Fault (List Char) :=
  match Utf8.decode bytes with
  | .ok text => .ok text.toList
  | .error _ => .error .undecodable

def decodeAscii (bytes : List UInt8) : Except Fault (List Char) :=
  if bytes.all (· < 0x80) then .ok (bytes.map fun b => Char.ofNat b.toNat)
  else .error .undecodable

/-- Every byte is the character of its number. -/
def decodeLatin1 (bytes : List UInt8) : Except Fault (List Char) :=
  .ok (bytes.map fun b => Char.ofNat b.toNat)

/-- A set that is known by name only, because it does not give text for bytes. -/
def transfer (name : String) (aliases : List String) : Charset :=
  ⟨name, aliases, fun _ => .error .notText⟩

def utf8 : Charset :=
  ⟨"utf_8", ["cp65001", "u8", "utf", "utf8", "utf8_ucs2", "utf8_ucs4"], decodeUtf8⟩

def unicode : List Charset := [
  utf8,
  ⟨"utf_8_sig", [], decodeUtf8⟩,
  ⟨"utf_7", ["u7", "unicode_1_1_utf_7", "utf7"], Utf7.decode⟩]

def basic : List Charset := [
  ⟨"ascii", ["646", "ansi_x3.4_1968", "ansi_x3.4_1986", "ansi_x3_4_1968", "cp367", "csascii",
    "ibm367", "iso646_us", "iso_646.irv_1991", "iso_ir_6", "us", "us_ascii"], decodeAscii⟩,
  ⟨"latin_1", ["8859", "cp819", "csisolatin1", "ibm819", "iso8859", "iso8859_1", "iso_8859_1",
    "iso_8859_1_1987", "iso_ir_100", "l1", "latin", "latin1"], decodeLatin1⟩,
  ⟨"charmap", [], decodeLatin1⟩]

def special : List Charset := [
  ⟨"undefined", [], fun _ => .error .unsuited⟩,
  transfer "base64_codec" ["base64", "base_64"],
  transfer "bz2_codec" ["bz2"],
  transfer "hex_codec" ["hex"],
  transfer "quopri_codec" ["quopri", "quoted_printable", "quotedprintable"],
  transfer "rot_13" ["rot13"],
  transfer "uu_codec" ["uu"],
  transfer "zlib_codec" ["zip", "zlib"]]

def all : List Charset :=
  unicode ++ codeUnits ++ Escaped.charsets ++ [Punycode.charset, DomainLabel.charset] ++
    special ++ basic ++ CodePage.iso8859 ++ CodePage.windows ++ CodePage.dos ++
    CodePage.ebcdic ++ CodePage.macintosh ++ CodePage.koi8 ++ Chinese.charsets ++
    Japanese.charsets ++ Korean.charsets ++ Iso2022.charsets

/-- A name in lower case, with one underscore for each run of other signs than letters, digits
and points between them. -/
def normalName (name : String) : String :=
  let cs := name.toList.map Char.toLower
  let keep (c : Char) : Bool := c.isAlphanum || c == '.'
  let runs := (cs.splitBy fun a b => keep a = keep b).filter fun run => run.all keep
  String.ofList (['_'].intercalate runs)

/-- Whether a set has a normal name. -/
def isNamed (name : String) (charset : Charset) : Bool :=
  let undotted := String.ofList (name.toList.map fun c => if c = '.' then '_' else c)
  charset.name == name || charset.aliases.contains name || charset.aliases.contains undotted

def ofName? (name : String) : Option Charset :=
  all.find? (isNamed (normalName name))

end TraceLens.Charset
