/-!
# Hexadecimal digits

Lower-case digits, most significant first, with or without a minimum width.
-/

namespace NativeBridge.Text

def hexDigits (number : Nat) : List Char := Nat.toDigits 16 number

def paddedHex (width number : Nat) : List Char :=
  let digits := hexDigits number
  List.replicate (width - digits.length) '0' ++ digits

def hexValue? (c : Char) : Option Nat :=
  if '0' ≤ c ∧ c ≤ '9' then some (c.toNat - '0'.toNat)
  else if 'a' ≤ c ∧ c ≤ 'f' then some (c.toNat - 'a'.toNat + 10)
  else if 'A' ≤ c ∧ c ≤ 'F' then some (c.toNat - 'A'.toNat + 10)
  else none

def ofHex? (digits : List Char) : Option Nat :=
  digits.foldlM (fun total c => (hexValue? c).map (16 * total + ·)) 0

end NativeBridge.Text
