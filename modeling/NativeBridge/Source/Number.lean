import NativeBridge.Text.Hex
import NativeBridge.Text.IdentifierChars

/-!
# Numbers in code

A number is an integer in one of four bases, or a decimal with a point or an exponent; a word may
follow as its suffix. Every function here answers what follows the part of a number that a text
starts with, or nothing if the text does not start with such a part.
-/

namespace NativeBridge.Source

def startsWord (c : Char) : Bool := Text.isIdentifierStart c || c == '_'

def afterWord (text : List Char) : List Char := text.dropWhile Text.isIdentifierContinue

/-! ## Decimals -/

def isDecimalDigit (c : Char) : Bool := Text.isAsciiDigit c || c == '_'

def afterExponent? (signed valued : Bool) : List Char → Option (List Char)
  | [] => if valued then some [] else none
  | c :: rest =>
      if Text.isAsciiDigit c then afterExponent? signed true rest
      else if c = '_' then afterExponent? signed valued rest
      else if valued then some (c :: rest)
      else if (c = '+' ∨ c = '-') ∧ !signed then afterExponent? true false rest
      else none

def withExponent? (otherwise : Option (List Char)) (text : List Char) : Option (List Char) :=
  match text with
  | 'e' :: rest | 'E' :: rest => (afterExponent? false false rest).or otherwise
  | _ => otherwise

/-- After a number with a point or an exponent. A point before a word or another point belongs to
no number. -/
def afterDecimal? (text : List Char) : Option (List Char) :=
  match text.dropWhile isDecimalDigit with
  | '.' :: rest =>
      let follows := match rest with
        | c :: _ => c == '.' || startsWord c
        | [] => false
      let rest := rest.dropWhile isDecimalDigit
      if follows then none else withExponent? (some rest) rest
  | rest => withExponent? none rest

/-! ## Integers -/

def afterDigits? (base : Nat) (started : Bool) : List Char → Option (List Char)
  | [] => if started then some [] else none
  | c :: rest =>
      let stop := if started then some (c :: rest) else none
      if c = '_' then if started || base != 10 then afterDigits? base started rest else none
      else match Text.hexValue? c with
        | some digit =>
            if digit < base then afterDigits? base true rest
            else if digit < 10 then none
            else stop
        | none => stop

def afterInteger? : List Char → Option (List Char)
  | '0' :: 'x' :: rest => afterDigits? 16 false rest
  | '0' :: 'o' :: rest => afterDigits? 8 false rest
  | '0' :: 'b' :: rest => afterDigits? 2 false rest
  | text => afterDigits? 10 false text

/-! ## Whole numbers -/

def afterSuffix? (text : List Char) : Option (List Char) :=
  match text with
  | [] => some []
  | c :: rest =>
      if startsWord c then some (afterWord rest)
      else if Text.isIdentifierContinue c then none
      else some (c :: rest)

def afterNumber? (text : List Char) : Option (List Char) :=
  ((afterDecimal? text).bind afterSuffix?).or ((afterInteger? text).bind afterSuffix?)

end NativeBridge.Source
