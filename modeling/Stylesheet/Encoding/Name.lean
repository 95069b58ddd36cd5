import Stylesheet.Encoding
import Stylesheet.Text.Shortened

/-!
# Encodings by name

An encoding is chosen by a name, of which only the ASCII letters, digits and points count, without
case; every run of other characters parts two words of it, and such runs at its ends are nothing.
Each encoding has one proper name and some others. A few names belong to conversions that do not
make text from bytes.
-/

namespace Stylesheet

namespace Encoding

/-- The words of a name, each behind the separator that parts it from the one before. -/
def canonicalFrom (parted : Bool) : List Char → List Char
  | [] => []
  | c :: cs =>
    if c.isAlphanum || c = '.' then
      (if parted then ['_', c.toLower] else [c.toLower]) ++ canonicalFrom false cs
    else canonicalFrom true cs

/-- A name as names are compared. -/
def canonicalName (name : String) : String :=
  String.ofList (canonicalFrom false
    (name.toList.dropWhile fun c => !(c.isAlphanum || c = '.')))

structure Entry where
  encoding : Encoding
  name : String
  aliases : List String

def entries : List Entry :=
  [⟨.utf8, "utf_8", ["u8", "utf", "utf8", "utf8_ucs2", "utf8_ucs4", "cp65001"]⟩,
    ⟨.utf8Marked, "utf_8_sig", []⟩,
    ⟨.ascii, "ascii", ["646", "ansi_x3.4_1968", "ansi_x3_4_1968", "ansi_x3.4_1986", "cp367",
      "csascii", "ibm367", "iso646_us", "iso_646.irv_1991", "iso_ir_6", "us", "us_ascii"]⟩,
    ⟨.latin1, "latin_1", ["8859", "cp819", "csisolatin1", "ibm819", "iso8859", "iso8859_1",
      "iso_8859_1", "iso_8859_1_1987", "iso_ir_100", "l1", "latin", "latin1"]⟩,
    ⟨.windows1252, "cp1252", ["1252", "windows_1252"]⟩,
    ⟨.utf16Marked, "utf_16", ["u16", "utf16"]⟩,
    ⟨.utf16 .little, "utf_16_le", ["unicodelittleunmarked", "utf_16le"]⟩,
    ⟨.utf16 .big, "utf_16_be", ["unicodebigunmarked", "utf_16be"]⟩,
    ⟨.utf32Marked, "utf_32", ["u32", "utf32"]⟩,
    ⟨.utf32 .little, "utf_32_le", ["utf_32le"]⟩,
    ⟨.utf32 .big, "utf_32_be", ["utf_32be"]⟩]

/-- Names of conversions that do not make text from bytes, each with its other names. -/
def otherConversions : List (String × List String) :=
  [("hex_codec", ["hex"]), ("base64_codec", ["base64", "base_64"]), ("rot_13", ["rot13"]),
    ("bz2_codec", ["bz2"]), ("quopri_codec", ["quopri", "quoted_printable", "quotedprintable"]),
    ("uu_codec", ["uu"]), ("zlib_codec", ["zip", "zlib"])]

inductive BadName where
  | unknown (name : String)
  | notText (name : String)
deriving DecidableEq

/-- Of the name of another conversion no more than 400 bytes are shown. -/
def BadName.message : BadName → String
  | unknown name => "unknown encoding: " ++ name
  | notText name =>
    "'" ++ String.ofList (shortened 400 name.toList)
      ++ "' is not a text encoding; use codecs.open() to handle arbitrary codecs"

/-- Whether a canonical name is this proper name or one of these others, in which a point may
stand for the separator. -/
def isNamed (canonical name : String) (aliases : List String) : Bool :=
  let pointless := String.ofList (canonical.toList.map fun c => if c = '.' then '_' else c)
  name = canonical || aliases.contains canonical || aliases.contains pointless

/-- The encoding of a name. The name `locale`, spelt just so, leaves the choice to the
surroundings, where it is UTF-8. -/
def ofName (name : String) : Except BadName Encoding :=
  let canonical := canonicalName name
  if name = "locale" then .ok .utf8
  else
    match entries.find? fun e => isNamed canonical e.name e.aliases with
    | some e => .ok e.encoding
    | none =>
      if otherConversions.any fun (proper, aliases) => isNamed canonical proper aliases then
        .error (.notText name)
      else .error (.unknown name)

end Encoding

end Stylesheet
