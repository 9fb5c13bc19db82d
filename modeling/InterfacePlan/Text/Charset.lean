import InterfacePlan.Text.Blank
import InterfacePlan.Text.Encoding

set_option autoImplicit false

namespace InterfacePlan.Text

inductive Charset where
  /-- A Unicode encoding; a byte order mark counts as a character. -/
  | unicode (encoding : Encoding)
  /-- UTF-8, after a byte order mark if there is one. -/
  | signed
  /-- Wider units, whose order a byte order mark must tell. -/
  | marked (wide : Bool)
  | ascii
  | latin1
  | latin9
  | windows1252
  deriving DecidableEq

namespace Charset

def labels : List (Charset × List String) :=
  [(.unicode .utf8, ["utf_8", "utf8", "u8", "utf", "utf8_ucs2", "utf8_ucs4", "cp65001"]),
    (.signed, ["utf_8_sig"]),
    (.marked false, ["utf_16", "utf16", "u16"]),
    (.unicode (.utf16 false), ["utf_16_le", "utf_16le", "unicodelittleunmarked"]),
    (.unicode (.utf16 true), ["utf_16_be", "utf_16be", "unicodebigunmarked"]),
    (.marked true, ["utf_32", "utf32", "u32"]),
    (.unicode (.utf32 false), ["utf_32_le", "utf_32le"]),
    (.unicode (.utf32 true), ["utf_32_be", "utf_32be"]),
    (.ascii, ["ascii", "us_ascii", "us", "646", "ansi_x3.4_1968", "ansi_x3_4_1968",
      "ansi_x3.4_1986", "cp367", "csascii", "ibm367", "iso646_us", "iso_646.irv_1991",
      "iso_ir_6"]),
    (.latin1, ["latin_1", "latin1", "latin", "l1", "iso_8859_1", "iso8859_1", "iso8859", "8859",
      "cp819", "csisolatin1", "ibm819", "iso_8859_1_1987", "iso_ir_100"]),
    (.latin9, ["iso8859_15", "iso_8859_15", "latin9", "l9"]),
    (.windows1252, ["cp1252", "windows_1252", "1252"])]

def isLabelChar (c : Char) : Bool :=
  ('0' ≤ c && c ≤ '9') || ('a' ≤ c && c ≤ 'z') || c = '.'

/-- A label in lower case, with one underscore for whatever stands between its words. -/
def normalLabel (label : String) : String :=
  let words := (label.toLower.toList.map fun c => if isLabelChar c then c else ' ').splitOn ' '
  String.ofList (List.intercalate ['_'] (words.filter (· ≠ [])))

def ofLabel? (label : String) : Option Charset :=
  let normal := normalLabel label
  (labels.find? fun entry => entry.2.contains normal).map (·.1)

/-- Parts between the semicolons that no quotes enclose; `part` is the one at hand, last first. -/
def splitParts (quoted : Bool) (part : List Char) : List Char → List (List Char)
  | [] => [part.reverse]
  | c :: rest =>
    if c = ';' && !quoted then part.reverse :: splitParts false [] rest
    else if c = '"' && part.head? ≠ some '\\' then splitParts (!quoted) (c :: part) rest
    else splitParts quoted (c :: part) rest

/-- The text between a pair of quotes, without the backslashes of its escapes. -/
def unquote (s : List Char) : List Char :=
  match s with
  | '"' :: rest =>
    match rest.reverse with
    | '"' :: inner => unescape inner.reverse
    | _ => s
  | '<' :: rest =>
    match rest.reverse with
    | '>' :: inner => inner.reverse
    | _ => s
  | s => s
where
  unescape : List Char → List Char
    | '\\' :: c :: rest => if c = '\\' || c = '"' then c :: unescape rest else '\\' :: unescape (c :: rest)
    | c :: rest => c :: unescape rest
    | [] => []

/-- The label of a charset that a content type gives. -/
def label? (contentType : String) : Option String :=
  let value? := (splitParts false [] contentType.toList).findSome? fun part =>
    let name := part.takeWhile (· ≠ '=')
    if (String.ofList (trimChars name)).toLower = "charset" then
      some (unquote (trimChars (part.drop (name.length + 1))))
    else none
  match value? with
  | some value =>
    if value.all fun c => c.toNat < 0x80 then some (String.ofList value).toLower else none
  | none => none

/-- Windows-1252 from 0x80 to 0x9f; zero where it has no character. -/
def windowsTable : List Nat :=
  [0x20ac, 0, 0x201a, 0x192, 0x201e, 0x2026, 0x2020, 0x2021, 0x2c6, 0x2030, 0x160, 0x2039, 0x152,
    0, 0x17d, 0, 0, 0x2018, 0x2019, 0x201c, 0x201d, 0x2022, 0x2013, 0x2014, 0x2dc, 0x2122, 0x161,
    0x203a, 0x153, 0, 0x17e, 0x178]

/-- The places at which Latin-9 differs from Latin-1. -/
def latin9Table : List (Nat × Char) :=
  [(0xa4, '€'), (0xa6, 'Š'), (0xa8, 'š'), (0xb4, 'Ž'), (0xb8, 'ž'), (0xbc, 'Œ'), (0xbd, 'œ'),
    (0xbe, 'Ÿ')]

def windowsChar (b : UInt8) : Char :=
  if 0x80 ≤ b && b < 0xA0 then
    match windowsTable.getD (b.toNat - 0x80) 0 with
    | 0 => '\ufffd'
    | n => Char.ofNat n
  else Char.ofNat b.toNat

def mark : List Char → List Char
  | '\ufeff' :: rest => rest
  | cs => cs

/-- The order of wider units that the mark at the start of bytes tells, and the bytes after it. -/
def markedOrder? (wide : Bool) : List UInt8 → Option (Encoding × List UInt8)
  | 0xFF :: 0xFE :: rest =>
    if wide then
      match rest with
      | 0x00 :: 0x00 :: rest => some (.utf32 false, rest)
      | _ => none
    else some (.utf16 false, rest)
  | 0xFE :: 0xFF :: rest => if wide then none else some (.utf16 true, rest)
  | 0x00 :: 0x00 :: 0xFE :: 0xFF :: rest => if wide then some (.utf32 true, rest) else none
  | _ => none

/-- Reads bytes. Wider units without a mark cannot be read, unless there is not one of them. -/
def read (charset : Charset) (bytes : List UInt8) : Except String (List Char) :=
  match charset with
  | .unicode encoding => .ok (encoding.replace bytes)
  | .signed => .ok (mark (Encoding.utf8.replace bytes))
  | .marked wide =>
    match markedOrder? wide bytes with
    | some (encoding, rest) => .ok (encoding.replace rest)
    | none =>
      let width := if wide then 4 else 2
      if bytes.length < width then .ok (if bytes = [] then [] else ['\ufffd'])
      else .error ((if wide then "UTF-32" else "UTF-16") ++ " stream does not start with BOM")
  | .ascii => .ok (bytes.map fun b => if b < 0x80 then Char.ofNat b.toNat else '\ufffd')
  | .latin1 => .ok (bytes.map fun b => Char.ofNat b.toNat)
  | .latin9 =>
    .ok (bytes.map fun b => (latin9Table.lookup b.toNat).getD (Char.ofNat b.toNat))
  | .windows1252 => .ok (bytes.map windowsChar)

/-- The text of bytes under a content type, with `other?` for the charsets that are not defined here.
Without a charset that is known it is UTF-8. -/
def decode (other? : String → Option (List UInt8 → Except String (List Code))) (contentType : String)
    (bytes : List UInt8) : Except String (List Code) :=
  match label? contentType with
  | none => .ok ((Encoding.utf8.replace bytes).map .char)
  | some label =>
    match ofLabel? label with
    | some charset => (charset.read bytes).map (List.map .char)
    | none =>
      match other? label with
      | some read => read bytes
      | none => .ok ((Encoding.utf8.replace bytes).map .char)

end Charset

end InterfacePlan.Text
