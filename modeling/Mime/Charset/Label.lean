import Mime.Charset.CodePage
import Mime.Charset.Registry
import Mime.Charset.Wide
import Mime.Text.Utf8

/-! Charset labels. A label is compared by its letters, digits and full stops, without regard
to case, each run of other characters between them counting as one underscore. -/

namespace Mime.Charset

/-- A way of writing text in octets. -/
inductive Encoding where
  | ascii
  | latin1
  | utf8
  /-- UTF-8 with a byte order mark in front, which is dropped. -/
  | utf8Marked
  | utf7
  /-- Without an order, a byte order mark decides it. -/
  | utf16 (order : Option ByteOrder)
  | utf32 (order : Option ByteOrder)
  | page (p : CodePage)
  deriving DecidableEq

/-- What a label names. -/
inductive Codec where
  | text (e : Encoding)
  /-- A transformation of octets, which yields no text. -/
  | transform
  /-- An encoding that refuses all octets. -/
  | refusing
  /-- What the registry has under a label. -/
  | further (label : Text)
  deriving DecidableEq

/-- Why a label cannot even be looked up. -/
inductive LabelFault where
  | nul
  | surrogates (run : Unencodable)

def LabelFault.message : LabelFault → Text
  | nul => "embedded null character"
  | surrogates run => run.message "utf-8" "surrogates not allowed"

namespace Label

def isKept (c : CodePoint) : Bool := c.isAsciiAlphanumeric || c = '.'

def lowerAscii (c : CodePoint) : CodePoint :=
  if c.between 'A' 'Z' then CodePoint.ofNat (c.val + 32) else c

/-- `started` says that a character was kept before, and `gap` that others came since. -/
def normalizeFrom (started gap : Bool) : Text → Text
  | [] => []
  | c :: r =>
    if isKept c then
      (if started && gap then ("_" : Text) else []) ++ lowerAscii c :: normalizeFrom true false r
    else normalizeFrom started true r

def normalize (label : Text) : Text := normalizeFrom false false label

def names : List (String × Codec) := [
  ("ascii", .text .ascii),
  ("utf_8", .text .utf8),
  ("utf_8_sig", .text .utf8Marked),
  ("utf_16", .text (.utf16 none)),
  ("utf_16_le", .text (.utf16 (some .little))),
  ("utf_16_be", .text (.utf16 (some .big))),
  ("utf_32", .text (.utf32 none)),
  ("utf_32_le", .text (.utf32 (some .little))),
  ("utf_32_be", .text (.utf32 (some .big))),
  ("utf_7", .text .utf7),
  ("latin_1", .text .latin1),
  ("iso8859_2", .text (.page .latin2)),
  ("iso8859_5", .text (.page .isoCyrillic)),
  ("iso8859_7", .text (.page .isoGreek)),
  ("iso8859_8", .text (.page .isoHebrew)),
  ("iso8859_9", .text (.page .latin5)),
  ("iso8859_15", .text (.page .latin9)),
  ("cp1250", .text (.page .windows1250)),
  ("cp1251", .text (.page .windows1251)),
  ("cp1252", .text (.page .windows1252)),
  ("cp1253", .text (.page .windows1253)),
  ("cp1254", .text (.page .windows1254)),
  ("cp1255", .text (.page .windows1255)),
  ("cp1256", .text (.page .windows1256)),
  ("cp1257", .text (.page .windows1257)),
  ("koi8_r", .text (.page .koi8r)),
  ("koi8_u", .text (.page .koi8u)),
  ("cp437", .text (.page .ibm437)),
  ("cp850", .text (.page .ibm850)),
  ("cp866", .text (.page .ibm866)),
  ("mac_roman", .text (.page .macRoman)),
  ("undefined", .refusing),
  ("base64_codec", .transform),
  ("bz2_codec", .transform),
  ("hex_codec", .transform),
  ("quopri_codec", .transform),
  ("rot_13", .transform),
  ("uu_codec", .transform),
  ("zlib_codec", .transform)]

def aliases : List (List String × Codec) := [
  (["646", "ansi_x3.4_1968", "ansi_x3.4_1986", "ansi_x3_4_1968", "cp367", "csascii", "ibm367",
    "iso646_us", "iso_646.irv_1991", "iso_ir_6", "us", "us_ascii"],
    .text .ascii),
  (["cp65001", "u8", "utf", "utf8", "utf8_ucs2", "utf8_ucs4"],
    .text .utf8),
  (["u16", "utf16"],
    .text (.utf16 none)),
  (["unicodelittleunmarked", "utf_16le"],
    .text (.utf16 (some .little))),
  (["unicodebigunmarked", "utf_16be"],
    .text (.utf16 (some .big))),
  (["u32", "utf32"],
    .text (.utf32 none)),
  (["utf_32le"],
    .text (.utf32 (some .little))),
  (["utf_32be"],
    .text (.utf32 (some .big))),
  (["u7", "unicode_1_1_utf_7", "utf7"],
    .text .utf7),
  (["8859", "cp819", "csisolatin1", "ibm819", "iso8859", "iso8859_1", "iso_8859_1",
    "iso_8859_1_1987", "iso_ir_100", "l1", "latin", "latin1"],
    .text .latin1),
  (["csisolatin2", "iso_8859_2", "iso_8859_2_1987", "iso_ir_101", "l2", "latin2"],
    .text (.page .latin2)),
  (["csisolatincyrillic", "cyrillic", "iso_8859_5", "iso_8859_5_1988", "iso_ir_144"],
    .text (.page .isoCyrillic)),
  (["csisolatingreek", "ecma_118", "elot_928", "greek", "greek8", "iso_8859_7",
    "iso_8859_7_1987", "iso_ir_126"],
    .text (.page .isoGreek)),
  (["csisolatinhebrew", "hebrew", "iso_8859_8", "iso_8859_8_1988", "iso_ir_138"],
    .text (.page .isoHebrew)),
  (["csisolatin5", "iso_8859_9", "iso_8859_9_1989", "iso_ir_148", "l5", "latin5"],
    .text (.page .latin5)),
  (["iso_8859_15", "l9", "latin9"],
    .text (.page .latin9)),
  (["1250", "windows_1250"],
    .text (.page .windows1250)),
  (["1251", "windows_1251"],
    .text (.page .windows1251)),
  (["1252", "windows_1252"],
    .text (.page .windows1252)),
  (["1253", "windows_1253"],
    .text (.page .windows1253)),
  (["1254", "windows_1254"],
    .text (.page .windows1254)),
  (["1255", "windows_1255"],
    .text (.page .windows1255)),
  (["1256", "windows_1256"],
    .text (.page .windows1256)),
  (["1257", "windows_1257"],
    .text (.page .windows1257)),
  (["cskoi8r"],
    .text (.page .koi8r)),
  (["437", "cspc8codepage437", "ibm437"],
    .text (.page .ibm437)),
  (["850", "cspc850multilingual", "ibm850"],
    .text (.page .ibm850)),
  (["866", "csibm866", "ibm866"],
    .text (.page .ibm866)),
  (["macintosh", "macroman"],
    .text (.page .macRoman)),
  (["base64", "base_64", "bz2", "hex", "quopri", "quoted_printable", "quotedprintable", "rot13",
    "uu", "zip", "zlib"],
    .transform)]

def alias? (n : Text) : Option Codec :=
  (aliases.find? fun a => a.1.any fun s => n == Text.ofString s).map (·.2)

def name? (n : Text) : Option Codec :=
  (names.find? fun a => n == Text.ofString a.1).map (·.2)

/-- An alias may also be spelled with full stops for underscores, a name may not. -/
def written? (label : Text) : Option Codec :=
  let n := normalize label
  (alias? n <|> alias? (n.map fun c : CodePoint => if c = '.' then ('_' : CodePoint) else c)) <|> name? n

variable [Registry]

/-- What a label names among the codecs written out here, or else in the registry. -/
def find? (label : Text) : Option Codec :=
  written? label <|> if Registry.knows label then some (.further label) else none

/-- Surrogates in a label are objected to before a U+0000 is. -/
def fault? (label : Text) : Option LabelFault :=
  match label.surrogateRun? with
  | some run => some (.surrogates run)
  | none => if label.any (·.val == 0) then some .nul else none

/-- The codec of a label, if there is one. -/
def lookup (label : Text) : Except LabelFault (Option Codec) :=
  match fault? label with
  | some f => .error f
  | none => .ok (find? label)

end Label

end Mime.Charset
