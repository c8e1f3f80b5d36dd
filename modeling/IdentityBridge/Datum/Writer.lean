import IdentityBridge.Datum

/-! Writing of data as JSON text: without spaces, and with an escape for every character outside ASCII,
which is two escapes for a character beyond the sixteen bits of one. -/

namespace IdentityBridge.Datum

namespace Writer

/-- The escape of a unit of sixteen bits. -/
def escapeUnit (n : Nat) : List Char :=
  let digits := Nat.toDigits 16 n
  '\\' :: 'u' :: List.replicate (4 - digits.length) '0' ++ digits

def escapeChar (c : Char) : List Char :=
  let n := c.toNat
  if c = '"' || c = '\\' then ['\\', c]
  else if 0x20 ≤ n && n < 0x7F then [c]
  else if n < 0x10000 then escapeUnit n
  else escapeUnit (0xD800 + (n - 0x10000) / 0x400) ++ escapeUnit (0xDC00 + (n - 0x10000) % 0x400)

def quoted (s : String) : String := String.ofList ('"' :: s.toList.flatMap escapeChar ++ ['"'])

/-- A real number; the ones that are not finite have names. -/
def number (x : Float) : String :=
  match realText x with
  | "inf" => "Infinity"
  | "-inf" => "-Infinity"
  | "nan" => "NaN"
  | written => written

end Writer

open Writer

mutual

/-- Write a datum. -/
def write : Datum → String
  | null => "null"
  | truth b => if b then "true" else "false"
  | whole n => toString n
  | real x => number x
  | text s => quoted s
  | list items => "[" ++ ",".intercalate (writeItems items) ++ "]"
  | record fields => "\x7b" ++ ",".intercalate (writeFields fields) ++ "\x7d"

def writeItems : List Datum → List String
  | [] => []
  | d :: rest => write d :: writeItems rest

def writeFields : List (String × Datum) → List String
  | [] => []
  | (key, d) :: rest => (quoted key ++ ":" ++ write d) :: writeFields rest

end

end IdentityBridge.Datum
