import IdentityBridge.Text.Integer
import IdentityBridge.Text.Quoted
import IdentityBridge.Text.Shortest

/-! Data handed over by other programs: nothing, truth values, numbers, texts, lists and records.
A datum that is not a text can still be read as one: this module writes that text. -/

namespace IdentityBridge

/-- A value of unknown kind. -/
inductive Datum where
  | null
  | truth (b : Bool)
  | whole (n : Int)
  | real (x : Float)
  | text (s : String)
  | list (items : List Datum)
  | record (fields : List (String × Datum))
deriving Inhabited

namespace Datum

/-- How real numbers are written: positionally while the decimal exponent lies in the given range,
otherwise with an exponent of at least two digits. -/
structure RealFormat where
  leastPositional : Int
  beyondPositional : Int

/-- Numbers from a ten-thousandth up to ten to the sixteenth are written positionally. -/
def realFormat : RealFormat := ⟨-4, 16⟩

/-- The text of a positive decimal. -/
def decimalText (format : RealFormat) (d : Text.Decimal) : String :=
  let digits := Nat.toDigits 10 d.digits
  let top := d.exponent + digits.length - 1
  let zeros (n : Int) : List Char := List.replicate n.toNat '0'
  String.ofList <|
    if format.leastPositional ≤ top ∧ top < format.beyondPositional then
      if top < 0 then '0' :: '.' :: zeros (-top - 1) ++ digits
      else
        let whole := (top + 1).toNat
        if digits.length ≤ whole then digits ++ zeros (whole - digits.length) ++ ['.', '0']
        else digits.take whole ++ '.' :: digits.drop whole
    else
      let exponent := Nat.toDigits 10 top.natAbs
      digits.take 1 ++ (if digits.length = 1 then [] else '.' :: digits.drop 1) ++
        'e' :: (if top < 0 then '-' else '+') ::
        (if exponent.length = 1 then '0' :: exponent else exponent)

/-- The shortest text of a real number that reads back as it. -/
def realText (x : Float) : String :=
  let bits := x.toBits.toNat
  let magnitude := bits % Text.Shortest.signUnit
  let sign := if bits = magnitude then "" else "-"
  if magnitude = 0 then sign ++ "0.0"
  else if magnitude = Text.Shortest.infinityBits then sign ++ "inf"
  else if Text.Shortest.infinityBits < magnitude then "nan"
  else sign ++ decimalText realFormat (Text.Shortest.ofBinary (Text.Shortest.Binary.ofBits magnitude))

mutual

/-- The form of a datum inside a list or a record: texts are quoted. -/
def literal : Datum → String
  | null => "None"
  | truth b => if b then "True" else "False"
  | whole n => toString n
  | real x => realText x
  | text s => Text.Quoted.encode s
  | list items => "[" ++ ", ".intercalate (literals items) ++ "]"
  | record fields => "\x7b" ++ ", ".intercalate (fieldLiterals fields) ++ "\x7d"

def literals : List Datum → List String
  | [] => []
  | d :: rest => literal d :: literals rest

def fieldLiterals : List (String × Datum) → List String
  | [] => []
  | (key, d) :: rest => (Text.Quoted.encode key ++ ": " ++ literal d) :: fieldLiterals rest

end

/-- A datum read as a text: a text is itself, everything else its literal form. -/
def asText : Datum → String
  | text s => s
  | d => d.literal

mutual

/-- Whether every whole number in a datum has few enough digits to be written. -/
def isWritable : Datum → Bool
  | whole n => (Nat.toDigits 10 n.natAbs).length ≤ Text.Integer.maxDigits
  | list items => areWritable items
  | record fields => areFieldsWritable fields
  | _ => true

def areWritable : List Datum → Bool
  | [] => true
  | d :: rest => isWritable d && areWritable rest

def areFieldsWritable : List (String × Datum) → Bool
  | [] => true
  | (_, d) :: rest => isWritable d && areFieldsWritable rest

end

end Datum

end IdentityBridge
