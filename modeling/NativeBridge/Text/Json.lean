import NativeBridge.Text.Hex

/-!
# JSON values and their text

A JSON value, and its two written forms: `compact`, without any blank, and `pretty`, with one item
or member a line and an indent of two blanks. In a string the quote, the backslash and the control
characters below the blank are escaped; every other character stands for itself.
-/

namespace NativeBridge

inductive Json where
  | null
  | bool (b : Bool)
  | int (n : Int)
  /-- What no description has a use for, as it is written: a number that is not written as an
  integer, a string with half of a surrogate pair, or an object with such a key. -/
  | literal (text : String)
  | string (text : String)
  | array (items : List Json)
  | object (members : List (String × Json))
  deriving Repr, Inhabited, BEq

namespace Json

/-! ## Strings -/

def escapedChar (c : Char) : List Char :=
  match c with
  | '"' => ['\\', '"']
  | '\\' => ['\\', '\\']
  | '\x08' => ['\\', 'b']
  | '\x0c' => ['\\', 'f']
  | '\n' => ['\\', 'n']
  | '\r' => ['\\', 'r']
  | '\t' => ['\\', 't']
  | c => if c.toNat < 0x20 then ['\\', 'u'] ++ Text.paddedHex 4 c.toNat else [c]

def stringChars (text : String) : List Char :=
  ['"'] ++ text.toList.flatMap escapedChar ++ ['"']

/-! ## Written forms -/

mutual

def compactChars : Json → List Char
  | null => "null".toList
  | bool true => "true".toList
  | bool false => "false".toList
  | int n => (toString n).toList
  | literal text => text.toList
  | string text => stringChars text
  | array items => ['['] ++ compactItems items ++ [']']
  | object members => ['\x7b'] ++ compactMembers members ++ ['\x7d']

def compactItems : List Json → List Char
  | [] => []
  | [item] => compactChars item
  | item :: rest => compactChars item ++ [','] ++ compactItems rest

def compactMembers : List (String × Json) → List Char
  | [] => []
  | [(key, value)] => stringChars key ++ [':'] ++ compactChars value
  | (key, value) :: rest =>
      stringChars key ++ [':'] ++ compactChars value ++ [','] ++ compactMembers rest

end

def newLine (level : Nat) : List Char := '\n' :: List.replicate (2 * level) ' '

mutual

def prettyChars (level : Nat) : Json → List Char
  | array [] => "[]".toList
  | array items => ['['] ++ prettyItems (level + 1) items ++ newLine level ++ [']']
  | object [] => ['\x7b', '\x7d']
  | object members => ['\x7b'] ++ prettyMembers (level + 1) members ++ newLine level ++ ['\x7d']
  | value => compactChars value

def prettyItems (level : Nat) : List Json → List Char
  | [] => []
  | [item] => newLine level ++ prettyChars level item
  | item :: rest => newLine level ++ prettyChars level item ++ [','] ++ prettyItems level rest

def prettyMembers (level : Nat) : List (String × Json) → List Char
  | [] => []
  | [(key, value)] => newLine level ++ stringChars key ++ [':', ' '] ++ prettyChars level value
  | (key, value) :: rest =>
      newLine level ++ stringChars key ++ [':', ' '] ++ prettyChars level value ++ [','] ++
        prettyMembers level rest

end

def compact (value : Json) : String := String.ofList value.compactChars

def pretty (value : Json) : String := String.ofList (value.prettyChars 0)

end Json

end NativeBridge
