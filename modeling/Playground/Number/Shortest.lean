/-! The decimal with the fewest digits that reads back as a given binary64 value, and its layouts.
All arithmetic is exact: a value is taken apart into mantissa and exponent, and a decimal is
accepted when it lies in the interval of reals that round to the value. -/
namespace Playground.Number

inductive Parts where
  | nan
  | infinite (negative : Bool)
  | finite (negative : Bool) (mantissa : Nat) (exponent : Int)
  deriving DecidableEq, Repr

def partsOf (x : Float) : Parts :=
  let bits := x.toBits.toNat
  let negative := decide (0x8000000000000000 ≤ bits)
  let biased := bits / 0x10000000000000 % 2048
  let fraction := bits % 0x10000000000000
  if biased = 2047 then (if fraction = 0 then .infinite negative else .nan)
  else if biased = 0 then .finite negative fraction (-1074)
  else .finite negative (fraction + 0x10000000000000) (Int.ofNat biased - 1075)

structure Decimal where
  digits : Nat
  exponent : Int
  deriving DecidableEq, Repr

structure Interval where
  low : Nat
  value : Nat
  high : Nat
  denominator : Nat
  closed : Bool
  deriving DecidableEq, Repr

/- The lower neighbour of a power of two is nearer than the upper one, save at the least exponent. -/
def intervalOf (mantissa : Nat) (exponent : Int) : Interval :=
  let below := if mantissa = 0x10000000000000 ∧ exponent ≠ -1074 then 1 else 2
  let scale := Nat.pow 2 (exponent - 2).toNat
  { low := (4 * mantissa - below) * scale
    value := 4 * mantissa * scale
    high := (4 * mantissa + 2) * scale
    denominator := Nat.pow 2 (2 - exponent).toNat
    closed := decide (mantissa % 2 = 0) }

def Interval.scaleBy (i : Interval) (gridExponent : Int) : Interval :=
  let up := Nat.pow 10 (-gridExponent).toNat
  { i with
    low := i.low * up
    value := i.value * up
    high := i.high * up
    denominator := i.denominator * Nat.pow 10 gridExponent.toNat }

def Interval.holds (i : Interval) (count : Nat) : Bool :=
  let point := count * i.denominator
  if i.closed then decide (i.low ≤ point) && decide (point ≤ i.high)
  else decide (i.low < point) && decide (point < i.high)

def Interval.nearest? (i : Interval) : Option Nat :=
  let floor := i.value / i.denominator
  let remainder := i.value % i.denominator
  match i.holds floor && decide (0 < floor),i.holds (floor + 1) with
  | true,true =>
    if 2 * remainder < i.denominator then some floor
    else if i.denominator < 2 * remainder then some (floor + 1)
    else some (if floor % 2 = 0 then floor else floor + 1)
  | true,false => some floor
  | false,true => some (floor + 1)
  | false,false => none

/- The place of the leading digit: the value lies below 10 ^ this and not below 10 ^ (this - 1). -/
def Interval.magnitude (i : Interval) : Int :=
  Int.ofNat (Nat.toDigits 10 (i.value * Nat.pow 10 400 / i.denominator)).length - 400

def Decimal.ofGrid (places : Nat) (gridExponent : Int) (digits : Nat) : Decimal :=
  if digits = Nat.pow 10 places then ⟨1,gridExponent + places⟩ else ⟨digits,gridExponent⟩

/- Seventeen digits always suffice, so the fall-back is never taken. -/
def shortest (mantissa : Nat) (exponent : Int) : Decimal :=
  let interval := intervalOf mantissa exponent
  let magnitude := interval.magnitude
  let onGrid (count : Nat) : Option Decimal :=
    let gridExponent := magnitude - Int.ofNat (count + 1)
    (interval.scaleBy gridExponent).nearest?.map (Decimal.ofGrid (count + 1) gridExponent)
  ((List.range 17).findSome? onGrid).getD ⟨mantissa,0⟩

structure Layout where
  leastPoint : Int
  greatestPoint : Int
  wholeFraction : Bool
  plusSign : Bool
  deriving DecidableEq, Repr

def zeros (count : Int) : String := String.ofList (List.replicate count.toNat '0')

def Decimal.render (layout : Layout) (d : Decimal) : String :=
  let digits := Nat.toDigits 10 d.digits
  let point := Int.ofNat digits.length + d.exponent
  let text := String.ofList digits
  if 0 ≤ d.exponent ∧ point ≤ layout.greatestPoint then
    text ++ zeros d.exponent ++ (if layout.wholeFraction then ".0" else "")
  else if 0 < point ∧ point ≤ layout.greatestPoint then
    String.ofList (digits.take point.toNat) ++ "." ++ String.ofList (digits.drop point.toNat)
  else if layout.leastPoint ≤ point ∧ point ≤ 0 then
    "0." ++ zeros (-point) ++ text
  else
    let power := point - 1
    let sign := if power < 0 then "-" else if layout.plusSign then "+" else ""
    let fraction := digits.drop 1
    String.ofList (digits.take 1) ++ (if fraction.isEmpty then "" else "." ++ String.ofList fraction)
      ++ "e" ++ sign ++ toString power.natAbs

end Playground.Number
