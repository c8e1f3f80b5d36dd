/-! Charsets, by the names they go by, and the reading of bytes in them. Reading is strict: bytes that
mean nothing in a charset are refused. Texts that carry bytes, one character for each, can be read
again in another charset. Charsets that are not listed here are what a platform says of them. -/

namespace IdentityBridge.Text

inductive Charset where
  | utf8
  /-- The same, where a mark at the start is dropped. -/
  | markedUtf8
  | latin1
  | ascii
  | windows1252
  /-- Units of sixteen bits in the order told by a mark at the start, or else low byte first. -/
  | utf16
  | littleUtf16
  | bigUtf16
deriving DecidableEq, Repr

namespace Charset

/-! ### Names -/

/-- What a name stands for. -/
inductive Meaning where
  | charset (c : Charset)
  /-- A known encoding, but not one of texts. -/
  | foreign
deriving DecidableEq, Repr

def isNameChar (c : Char) : Bool := c.isAlphanum || c = '.'

/-- A name in lower case, with an underscore for whatever stands between its letters, digits and
points; `apart` tells that something stood there. -/
def foldName (apart : Bool) : List Char → List Char
  | [] => []
  | c :: rest =>
    if isNameChar c then
      if apart then '_' :: c.toLower :: foldName false rest else c.toLower :: foldName false rest
    else foldName true rest

/-- The names that encodings have of their own. -/
def ownNames : List (String × Meaning) := [
  ("utf_8", .charset utf8), ("utf_8_sig", .charset markedUtf8), ("latin_1", .charset latin1),
  ("ascii", .charset ascii), ("cp1252", .charset windows1252), ("utf_16", .charset utf16),
  ("utf_16_le", .charset littleUtf16), ("utf_16_be", .charset bigUtf16), ("hex_codec", .foreign),
  ("base64_codec", .foreign), ("rot_13", .foreign), ("bz2_codec", .foreign),
  ("zlib_codec", .foreign), ("quopri_codec", .foreign), ("uu_codec", .foreign)]

/-- The other names that they go by. -/
def aliases : List (String × Meaning) := [
  ("utf8", .charset utf8), ("utf", .charset utf8), ("u8", .charset utf8),
  ("utf8_ucs2", .charset utf8), ("utf8_ucs4", .charset utf8), ("cp65001", .charset utf8),
  ("iso_8859_1", .charset latin1), ("iso8859_1", .charset latin1), ("latin1", .charset latin1),
  ("latin", .charset latin1), ("l1", .charset latin1), ("8859", .charset latin1),
  ("iso8859", .charset latin1), ("cp819", .charset latin1), ("ibm819", .charset latin1),
  ("csisolatin1", .charset latin1), ("iso_8859_1_1987", .charset latin1),
  ("iso_ir_100", .charset latin1), ("us_ascii", .charset ascii), ("us", .charset ascii),
  ("646", .charset ascii), ("ansi_x3.4_1968", .charset ascii), ("ansi_x3_4_1968", .charset ascii),
  ("ansi_x3.4_1986", .charset ascii), ("cp367", .charset ascii), ("csascii", .charset ascii),
  ("ibm367", .charset ascii), ("iso646_us", .charset ascii), ("iso_646.irv_1991", .charset ascii),
  ("iso_ir_6", .charset ascii), ("1252", .charset windows1252),
  ("windows_1252", .charset windows1252), ("utf16", .charset utf16), ("u16", .charset utf16),
  ("utf_16le", .charset littleUtf16), ("unicodelittleunmarked", .charset littleUtf16),
  ("utf_16be", .charset bigUtf16), ("unicodebigunmarked", .charset bigUtf16), ("hex", .foreign),
  ("base64", .foreign), ("base_64", .foreign), ("rot13", .foreign), ("bz2", .foreign),
  ("zip", .foreign), ("zlib", .foreign), ("quopri", .foreign), ("quoted_printable", .foreign),
  ("quotedprintable", .foreign), ("uu", .foreign)]

/-- A name, whatever its case and its separators. -/
def folded (name : String) : String :=
  String.ofList (foldName false (name.toList.dropWhile fun c => !isNameChar c))

/-- Names have no null character in them. -/
def isNulled (name : String) : Bool := name.toList.contains '\x00'

/-- What a name stands for, if it is listed. In aliases a point counts as an underscore too. -/
def ofName? (name : String) : Option Meaning :=
  if isNulled name then none
  else
    let name := folded name
    let unpointed := String.ofList (name.toList.map fun c => if c = '.' then '_' else c)
    (aliases.lookup name).or ((aliases.lookup unpointed).or (ownNames.lookup name))

/-- What comes of reading bytes in a charset that is not listed. -/
inductive Decoding where
  | text (s : String)
  /-- The bytes mean nothing. -/
  | meaningless
  /-- The bytes mean surrogates, which no text holds. -/
  | surrogates
deriving DecidableEq, Repr

end Charset

/-- Charsets that are not listed, by their folded names. -/
abbrev CharsetNames := String → Option (List UInt8 → Charset.Decoding)

namespace Charset

/-! ### Reading -/

/-- The characters of the bytes from 128 to 159 where they are not controls. -/
def windowsPoints : List Nat := [
  0x20AC, 0, 0x201A, 0x0192, 0x201E, 0x2026, 0x2020, 0x2021, 0x02C6, 0x2030, 0x0160, 0x2039, 0x0152,
  0, 0x017D, 0, 0, 0x2018, 0x2019, 0x201C, 0x201D, 0x2022, 0x2013, 0x2014, 0x02DC, 0x2122, 0x0161,
  0x203A, 0x0153, 0, 0x017E, 0x0178]

def windowsChar? (b : UInt8) : Option Char :=
  if 0x80 ≤ b ∧ b < 0xA0 then
    match windowsPoints.getD (b.toNat - 0x80) 0 with
    | 0 => none
    | n => some (Char.ofNat n)
  else some (Char.ofNat b.toNat)

/-- Pair bytes to units; a byte left over is refused. -/
def units? (little : Bool) : List UInt8 → Option (List Nat)
  | [] => some []
  | [_] => none
  | a :: b :: rest =>
    let unit := if little then a.toNat + 256 * b.toNat else 256 * a.toNat + b.toNat
    (units? little rest).map (unit :: ·)

/-- Join units to characters; a surrogate without its partner is refused. -/
def ofUnits? : List Nat → Option (List Char)
  | [] => some []
  | high :: rest =>
    if high < 0xD800 || 0xDFFF < high then (ofUnits? rest).map (Char.ofNat high :: ·)
    else if 0xDC00 ≤ high then none
    else
      match rest with
      | [] => none
      | low :: rest =>
        if 0xDC00 ≤ low && low ≤ 0xDFFF then
          let point := 0x10000 + (high - 0xD800) * 0x400 + (low - 0xDC00)
          (ofUnits? rest).map (Char.ofNat point :: ·)
        else none

def decodeUtf8? (bytes : List UInt8) : Option String := String.fromUTF8? ⟨bytes.toArray⟩

def decodeUtf16? (little : Bool) (bytes : List UInt8) : Option String :=
  ((units? little bytes).bind ofUnits?).map String.ofList

/-- The text of bytes, if they mean one in the charset. -/
def decode? : Charset → List UInt8 → Option String
  | utf8, bytes => decodeUtf8? bytes
  | markedUtf8, bytes =>
    match bytes with
    | 0xEF :: 0xBB :: 0xBF :: rest => decodeUtf8? rest
    | bytes => decodeUtf8? bytes
  | latin1, bytes => some (String.ofList (bytes.map fun b => Char.ofNat b.toNat))
  | ascii, bytes =>
    if bytes.all (· < 0x80) then some (String.ofList (bytes.map fun b => Char.ofNat b.toNat))
    else none
  | windows1252, bytes => (bytes.mapM windowsChar?).map String.ofList
  | utf16, bytes =>
    match bytes with
    | 0xFF :: 0xFE :: rest => decodeUtf16? true rest
    | 0xFE :: 0xFF :: rest => decodeUtf16? false rest
    | bytes => decodeUtf16? true bytes
  | littleUtf16, bytes => decodeUtf16? true bytes
  | bigUtf16, bytes => decodeUtf16? false bytes

/-! ### Carried bytes -/

/-- The bytes that a text carries, if all its characters are below 256. -/
def carried? (s : String) : Option (List UInt8) :=
  s.toList.mapM fun c => if c.toNat < 256 then some (UInt8.ofNat c.toNat) else none

/-- The text that carries bytes. -/
def carrier (bytes : List UInt8) : String := String.ofList (bytes.map fun b => Char.ofNat b.toNat)

/-- Read the bytes that a text carries in a charset; the text stays if there are none or if they mean
nothing. -/
def reread (c : Charset) (s : String) : String := ((carried? s).bind c.decode?).getD s

end Charset

end IdentityBridge.Text
