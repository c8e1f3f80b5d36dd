import IdentityBridge.Datum
import IdentityBridge.Table

/-! Reading of data from JSON text. Texts end at an unescaped quote and hold no control characters;
numbers with a fraction or an exponent are real; when a record repeats a key the last value counts. -/

namespace IdentityBridge.Datum

namespace Reader

abbrev Rest := List Char

def skipSpace (cs : List Char) : Rest :=
  cs.dropWhile fun c => c = ' ' || c = '\t' || c = '\n' || c = '\r'

/-- The value of a hexadecimal digit. -/
def hexDigit? (c : Char) : Option Nat :=
  if '0' ≤ c && c ≤ '9' then some (c.toNat - '0'.toNat)
  else if 'a' ≤ c && c ≤ 'f' then some (c.toNat - 'a'.toNat + 10)
  else if 'A' ≤ c && c ≤ 'F' then some (c.toNat - 'A'.toNat + 10)
  else none

/-- The number of four hexadecimal digits. -/
def hex4? : List Char → Option (Nat × Rest)
  | a :: b :: c :: d :: rest => do
    return ((((← hexDigit? a) * 16 + (← hexDigit? b)) * 16 + (← hexDigit? c)) * 16 + (← hexDigit? d),
      rest)
  | _ => none

/-- The character of a `\u` escape, of which the hexadecimal digits come next. Two escapes that
form a surrogate pair give one character; a surrogate alone gives the replacement character. -/
def escapedPoint? (cs : List Char) : Option (Char × Rest) := do
  let (high, rest) ← hex4? cs
  if high < 0xD800 || 0xDFFF < high then return (Char.ofNat high, rest)
  if high ≤ 0xDBFF then
    if let '\\' :: 'u' :: more := rest then
      if let some (low, more) := hex4? more then
        if 0xDC00 ≤ low && low ≤ 0xDFFF then
          return (Char.ofNat (0x10000 + (high - 0xD800) * 0x400 + (low - 0xDC00)), more)
  return ('\uFFFD', rest)

/-- The characters of a text up to its closing quote. -/
def textBody : Nat → List Char → Option (List Char × Rest)
  | 0, _ => none
  | fuel + 1, cs =>
    match cs with
    | [] => none
    | '"' :: rest => some ([], rest)
    | '\\' :: rest => do
      let (c, rest) ← match rest with
        | '"' :: rest => some ('"', rest)
        | '\\' :: rest => some ('\\', rest)
        | '/' :: rest => some ('/', rest)
        | 'b' :: rest => some ('\x08', rest)
        | 'f' :: rest => some ('\x0c', rest)
        | 'n' :: rest => some ('\n', rest)
        | 'r' :: rest => some ('\r', rest)
        | 't' :: rest => some ('\t', rest)
        | 'u' :: rest => escapedPoint? rest
        | _ => none
      let (body, rest) ← textBody fuel rest
      return (c :: body, rest)
    | c :: rest =>
      if c.toNat < 0x20 then none
      else do
        let (body, rest) ← textBody fuel rest
        return (c :: body, rest)

def text? (cs : List Char) : Option (String × Rest) :=
  (textBody (cs.length + 1) cs).map fun (body, rest) => (String.ofList body, rest)

/-- The decimal digits that come next, and what follows them. -/
def digits (cs : List Char) : List Char × Rest := (cs.takeWhile Char.isDigit, cs.dropWhile Char.isDigit)

def natOf (ds : List Char) : Nat := ds.foldl (fun n d => 10 * n + (d.toNat - '0'.toNat)) 0

/-- The real number `mantissa * 10^exponent`; far exponents are brought into reach first. -/
def realOf (negative : Bool) (mantissa : Nat) (exponent : Int) : Float :=
  let size := (Nat.toDigits 10 mantissa).length
  let magnitude : Float :=
    if mantissa = 0 then 0
    else if 400 < exponent + size then Float.ofBits 0x7FF0000000000000
    else if exponent + size < -400 then 0
    else Float.ofScientific mantissa (exponent < 0) exponent.natAbs
  if negative then -magnitude else magnitude

/-- The integral digits of a number: a single zero, or digits that do not start with one. -/
def integral? : List Char → Option (List Char × Rest)
  | '0' :: rest => some (['0'], rest)
  | cs =>
    match digits cs with
    | ([], _) => none
    | (ds, rest) => some (ds, rest)

/-- The digits of a fraction, if a point and a digit come next. -/
def fraction (cs : List Char) : List Char × Rest :=
  match cs with
  | '.' :: rest => if (digits rest).1 = [] then ([], cs) else digits rest
  | _ => ([], cs)

/-- The exponent that comes next, if any. -/
def exponent? (cs : List Char) : Option (Int × Rest) :=
  let read (negative : Bool) (cs : List Char) : Option (Int × Rest) :=
    match digits cs with
    | ([], _) => none
    | (ds, rest) => some (if negative then -(natOf ds : Int) else natOf ds, rest)
  match cs with
  | c :: rest =>
    if c = 'e' || c = 'E' then
      match rest with
      | '+' :: rest => read false rest
      | '-' :: rest => read true rest
      | rest => read false rest
    else none
  | [] => none

def number? (cs : List Char) : Option (Datum × Rest) := do
  let (negative, cs) := match cs with
    | '-' :: rest => (true, rest)
    | cs => (false, cs)
  if let 'I' :: 'n' :: 'f' :: 'i' :: 'n' :: 'i' :: 't' :: 'y' :: rest := cs then
    let infinity := Float.ofBits 0x7FF0000000000000
    return (.real (if negative then -infinity else infinity), rest)
  let (units, rest) ← integral? cs
  let (places, rest) := fraction rest
  match exponent? rest with
  | some (e, rest) =>
    return (.real (realOf negative (natOf (units ++ places)) (e - places.length)), rest)
  | none =>
    if places = [] then
      if units.length ≤ 4300 then
        return (.whole (if negative then -(natOf units : Int) else natOf units), rest)
      else none
    else return (.real (realOf negative (natOf (units ++ places)) (-places.length)), rest)

mutual

/-- Read one datum; `fuel` bounds the depth and the number of items. -/
def value? : Nat → List Char → Option (Datum × Rest)
  | 0, _ => none
  | fuel + 1, cs =>
    match cs with
    | 'n' :: 'u' :: 'l' :: 'l' :: rest => some (.null, rest)
    | 't' :: 'r' :: 'u' :: 'e' :: rest => some (.truth true, rest)
    | 'f' :: 'a' :: 'l' :: 's' :: 'e' :: rest => some (.truth false, rest)
    | 'N' :: 'a' :: 'N' :: rest => some (.real (Float.ofBits 0x7FF8000000000000), rest)
    | '"' :: rest => (text? rest).map fun (s, rest) => (.text s, rest)
    | '[' :: rest =>
      match skipSpace rest with
      | ']' :: rest => some (.list [], rest)
      | rest => (items? fuel rest).map fun (items, rest) => (.list items, rest)
    | '\x7b' :: rest =>
      match skipSpace rest with
      | '\x7d' :: rest => some (.record [], rest)
      | rest => (fields? fuel rest).map fun (fields, rest) =>
          (.record (Table.ofList fields).entries, rest)
    | cs => number? cs

def items? : Nat → List Char → Option (List Datum × Rest)
  | 0, _ => none
  | fuel + 1, cs =>
    match value? fuel cs with
    | none => none
    | some (item, rest) =>
      match skipSpace rest with
      | ']' :: rest => some ([item], rest)
      | ',' :: rest => (items? fuel (skipSpace rest)).map fun (items, rest) => (item :: items, rest)
      | _ => none

def fields? : Nat → List Char → Option (List (String × Datum) × Rest)
  | 0, _ => none
  | fuel + 1, cs =>
    match cs with
    | '"' :: rest =>
      match text? rest with
      | none => none
      | some (key, rest) =>
        match skipSpace rest with
        | ':' :: rest =>
          match value? fuel (skipSpace rest) with
          | none => none
          | some (item, rest) =>
            match skipSpace rest with
            | '\x7d' :: rest => some ([(key, item)], rest)
            | ',' :: rest =>
              (fields? fuel (skipSpace rest)).map fun (fields, rest) => ((key, item) :: fields, rest)
            | _ => none
        | _ => none
    | _ => none

end

end Reader

/-- Read one datum from a JSON text that holds nothing else. -/
def read? (text : String) : Option Datum :=
  let cs := text.toList
  match Reader.value? (cs.length + 1) (Reader.skipSpace cs) with
  | some (d, rest) => if Reader.skipSpace rest = [] then some d else none
  | none => none

end IdentityBridge.Datum
