/-!
# Shortest decimals

The decimal text of a binary floating-point number that has the fewest digits among those that read
back as the number, and of those the one nearest to it. A number is taken as its significand and a
power of two; it is the reading of every decimal in an interval around it, whose ends belong to it if
the significand is even.
-/

namespace NativeBridge.Text

structure Binary where
  significand : Nat
  exponent : Int
  /-- Whether the next smaller number is only half as far away as the next larger one. -/
  narrowBelow : Bool
  deriving DecidableEq, Repr

structure Decimal where
  digits : Nat
  exponent : Int
  deriving DecidableEq, Repr

namespace Binary

def fraction (number : Binary) (quarters : Nat) (k : Int) : Nat × Nat :=
  let e := number.exponent - 2
  (quarters * Nat.pow 2 e.toNat * Nat.pow 10 (-k).toNat, Nat.pow 2 (-e).toNat * Nat.pow 10 k.toNat)

def readsBack (number : Binary) (k : Int) (multiple : Nat) : Bool :=
  let below := 4 * number.significand - (if number.narrowBelow then 1 else 2)
  let (low, unit) := number.fraction below k
  let (high, _) := number.fraction (4 * number.significand + 2) k
  if number.significand % 2 = 0 then low ≤ multiple * unit && multiple * unit ≤ high
  else low < multiple * unit && multiple * unit < high

def multiple? (number : Binary) (k : Int) : Option Nat :=
  let (value, unit) := number.fraction (4 * number.significand) k
  let lower := value / unit
  match number.readsBack k lower, number.readsBack k (lower + 1) with
  | true, true => if 2 * (value % unit) < unit then some lower else some (lower + 1)
  | true, false => some lower
  | false, true => some (lower + 1)
  | false, false => none

def coarsest (number : Binary) : Nat → Int → Decimal
  | 0, k => { digits := 0, exponent := k }
  | fuel + 1, k =>
      match number.multiple? k with
      | some digits => if digits = 0 then coarsest number fuel (k - 1) else { digits, exponent := k }
      | none => coarsest number fuel (k - 1)

/-- The shortest decimal. No number of 64 bits reaches ten to the power 310, and all have a decimal
that is a multiple of ten to the power -340. -/
def shortest (number : Binary) : Decimal := coarsest number 651 310

end Binary

def positional (digits : List Char) (places : Int) : List Char :=
  if places ≤ 0 then ['0', '.'] ++ List.replicate (-places).toNat '0' ++ digits
  else
    let whole := digits.take places.toNat
    let fractional := digits.drop places.toNat
    whole ++ List.replicate (places.toNat - digits.length) '0' ++ ['.'] ++
      (if fractional.isEmpty then ['0'] else fractional)

def scientific (digits : List Char) (power : Int) : List Char :=
  let mantissa := match digits with
    | [] => []
    | [d] => [d]
    | d :: rest => d :: '.' :: rest
  mantissa ++ ['e'] ++ (toString power).toList

def Decimal.text (number : Decimal) : List Char :=
  let digits := (toString number.digits).toList
  let places := digits.length + number.exponent
  if -3 ≤ places ∧ places ≤ 16 then positional digits places else scientific digits (places - 1)

def floatText (negative : Bool) (exponentBits fractionBits : Nat) (exponent fraction : Nat) :
    String :=
  let sign := if negative then "-" else ""
  let bias := Nat.pow 2 (exponentBits - 1) - 1
  if exponent = Nat.pow 2 exponentBits - 1 then
    if fraction = 0 then sign ++ "inf" else "NaN"
  else if exponent = 0 ∧ fraction = 0 then sign ++ "0.0"
  else
    let number : Binary :=
      if exponent = 0 then
        { significand := fraction, exponent := 1 - (bias + fractionBits : Nat)
          narrowBelow := false }
      else
        { significand := Nat.pow 2 fractionBits + fraction
          exponent := exponent - (bias + fractionBits : Nat)
          narrowBelow := fraction = 0 ∧ exponent ≠ 1 }
    sign ++ String.ofList number.shortest.text

def float32Text (bits : UInt32) : String :=
  floatText (bits >>> 31 == 1) 8 23 ((bits >>> 23) &&& 0xff).toNat (bits &&& 0x7fffff).toNat

def float64Text (bits : UInt64) : String :=
  floatText (bits >>> 63 == 1) 11 52 ((bits >>> 52) &&& 0x7ff).toNat
    (bits &&& 0xfffffffffffff).toNat

end NativeBridge.Text
