/-! The shortest decimal of a floating point number: the fewest significant digits that read back as
the number, nearest to it among those of that count. The number is given exactly, as `m * 2^q`, and
all work is on natural numbers. -/

namespace IdentityBridge.Text

/-- A positive decimal `digits * 10^exponent`. -/
structure Decimal where
  digits : Nat
  exponent : Int
deriving DecidableEq, Repr

namespace Shortest

/-- A positive binary number `m * 2^q`; `edge` tells that the next smaller number is twice as near
as the next greater one. -/
structure Binary where
  m : Nat
  q : Int
  edge : Bool
deriving DecidableEq, Repr

/-- The weight of the lowest bit of the exponent in a bit pattern, above fifty-two bits of fraction. -/
def exponentUnit : Nat := 0x10000000000000

/-- The weight of the sign in a bit pattern. -/
def signUnit : Nat := 0x8000000000000000

/-- The bit pattern of infinity, which is the greatest exponent. -/
def infinityBits : Nat := 0x7FF0000000000000

/-- The finite positive number of a sign-less bit pattern. -/
def Binary.ofBits (bits : Nat) : Binary :=
  let biased : Nat := bits / exponentUnit
  let fraction : Nat := bits % exponentUnit
  if biased = 0 then ⟨fraction, -1074, false⟩
  else ⟨exponentUnit + fraction, (biased : Int) - 1075, fraction = 0 && 1 < biased⟩

/-- A positive fraction. -/
structure Ratio where
  num : Nat
  den : Nat

namespace Ratio

/-- `n * 2^e`. -/
def scale2 (n : Nat) (e : Int) : Ratio :=
  if 0 ≤ e then ⟨n * Nat.pow 2 e.toNat, 1⟩ else ⟨n, Nat.pow 2 (-e).toNat⟩

/-- Multiply by `10^e`. -/
def scale10 (r : Ratio) (e : Int) : Ratio :=
  if 0 ≤ e then ⟨r.num * Nat.pow 10 e.toNat, r.den⟩
  else ⟨r.num, r.den * Nat.pow 10 (-e).toNat⟩

def le (a b : Ratio) : Bool := a.num * b.den ≤ b.num * a.den

def lt (a b : Ratio) : Bool := a.num * b.den < b.num * a.den

end Ratio

/-- The reals that round to a number: from `low` to `high`, ends included when `m` is even. -/
structure Interval where
  low : Ratio
  high : Ratio
  closed : Bool

def Binary.interval (b : Binary) : Interval where
  low := Ratio.scale2 (4 * b.m - if b.edge then 1 else 2) (b.q - 2)
  high := Ratio.scale2 (4 * b.m + 2) (b.q - 2)
  closed := b.m % 2 = 0

/-- Whether `n / 10^e` lies in the interval. -/
def Interval.holds (i : Interval) (n : Nat) (e : Int) : Bool :=
  let point : Ratio := Ratio.scale10 ⟨n, 1⟩ (-e)
  if i.closed then i.low.le point && point.le i.high else i.low.lt point && point.lt i.high

/-- The decimal exponent of the leading digit. -/
def leading (r : Ratio) : Int :=
  if r.den ≤ r.num then ((Nat.toDigits 10 (r.num / r.den)).length : Int) - 1
  else -(((Nat.toDigits 10 ((r.den - 1) / r.num)).length : Int))

/-- The better of the two neighbours of the number on the grid of step `10^-e`; of two equally near
ones the even one. -/
def onGrid? (value : Ratio) (i : Interval) (e : Int) : Option Nat :=
  let scaled := value.scale10 e
  let below := scaled.num / scaled.den
  let remainder := scaled.num % scaled.den
  let nearest :=
    if 2 * remainder < scaled.den then below
    else if scaled.den < 2 * remainder then below + 1
    else if below % 2 = 0 then below else below + 1
  let other := if nearest = below then below + 1 else below
  if i.holds nearest e then some nearest
  else if i.holds other e then some other
  else none

/-- Try grids with ever more digits; seventeen always suffice. -/
def search (value : Ratio) (i : Interval) (top : Int) : Nat → Nat → Decimal
  | 0, count =>
    let e := (count : Int) - 1 - top
    ⟨(onGrid? value i e).getD 0, -e⟩
  | more + 1, count =>
    let e := (count : Int) - 1 - top
    match onGrid? value i e with
    | some n => ⟨n, -e⟩
    | none => search value i top more (count + 1)

end Shortest

/-- Drop the zeros at the end of the digits. -/
def Decimal.strip : Nat → Decimal → Decimal
  | 0, d => d
  | fuel + 1, d =>
    if d.digits ≠ 0 ∧ d.digits % 10 = 0 then strip fuel ⟨d.digits / 10, d.exponent + 1⟩ else d

/-- The shortest decimal of a finite positive number. -/
def Shortest.ofBinary (b : Shortest.Binary) : Decimal :=
  let value := Shortest.Ratio.scale2 b.m b.q
  (Shortest.search value b.interval (Shortest.leading value) 17 1).strip 20

end IdentityBridge.Text
