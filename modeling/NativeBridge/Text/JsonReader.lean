import NativeBridge.Text.Json

/-!
# Reading JSON text

The reader takes the strict grammar: no comments, no comma before a closing bracket, no text after
the value, and no raw control character in a string. A string with half of a surrogate pair is no
text: it is kept as it is written, and so is an object with such a key. Every reader answers what it
read and the rest of the text, or nothing.

Nesting is bounded by a count of steps that grows with the text, so that no text runs into it.
-/

namespace NativeBridge.Json

def isBlank (c : Char) : Bool := c == ' ' || c == '\t' || c == '\n' || c == '\r'

def skipBlank (text : List Char) : List Char := text.dropWhile isBlank

/-! ## Strings -/

inductive StringUnit where
  | char (c : Char)
  | unit (n : Nat)
  deriving DecidableEq, Repr

def namedEscape? (c : Char) : Option Char :=
  match c with
  | '"' => some '"'
  | '\\' => some '\\'
  | '/' => some '/'
  | 'b' => some '\x08'
  | 'f' => some '\x0c'
  | 'n' => some '\n'
  | 'r' => some '\r'
  | 't' => some '\t'
  | _ => none

def readUnits : List Char → Option (List StringUnit × List Char)
  | '"' :: rest => some ([], rest)
  | '\\' :: 'u' :: a :: b :: c :: d :: rest => do
      let n ← Text.ofHex? [a, b, c, d]
      let (units, rest) ← readUnits rest
      some (.unit n :: units, rest)
  | '\\' :: letter :: rest => do
      let c ← namedEscape? letter
      let (units, rest) ← readUnits rest
      some (.char c :: units, rest)
  | c :: rest =>
      if c.toNat < 0x20 || c == '\\' then none
      else do
        let (units, rest) ← readUnits rest
        some (.char c :: units, rest)
  | [] => none

def isHighSurrogate (n : Nat) : Bool := 0xd800 ≤ n && n < 0xdc00

def isLowSurrogate (n : Nat) : Bool := 0xdc00 ≤ n && n < 0xe000

/-- The characters of a string; a code unit of a surrogate pair needs the other one beside it. -/
def joinUnits : List StringUnit → Option (List Char)
  | [] => some []
  | .char c :: rest => (joinUnits rest).map (c :: ·)
  | .unit high :: .unit low :: rest =>
      if isHighSurrogate high then
        if isLowSurrogate low then
          let c := Char.ofNat (0x10000 + (high - 0xd800) * 0x400 + (low - 0xdc00))
          (joinUnits rest).map (c :: ·)
        else none
      else if isLowSurrogate high then none
      else (joinUnits (.unit low :: rest)).map (Char.ofNat high :: ·)
  | .unit n :: rest =>
      if isHighSurrogate n || isLowSurrogate n then none
      else (joinUnits rest).map (Char.ofNat n :: ·)

def written (start rest : List Char) : Json :=
  .literal (String.ofList (start.take (start.length - rest.length)))

def readKey (text : List Char) : Option (Option String × List Char) := do
  let (units, rest) ← readUnits text
  some ((joinUnits units).map String.ofList, rest)

def readString (text : List Char) : Option (Json × List Char) := do
  let (key, rest) ← readKey text
  some ((key.map Json.string).getD (written ('"' :: text) rest), rest)

def ofMembers? (members : List (Option String × Json)) : Option Json := do
  let members ← members.mapM fun (key, value) => do
    let key ← key
    return (key, value)
  return .object members

/-! ## Numbers -/

def isDigit (c : Char) : Bool := '0' ≤ c && c ≤ '9'

def readInteger (text : List Char) : Option (List Char × List Char) :=
  match text.takeWhile isDigit with
  | [] => none
  | '0' :: _ :: _ => none
  | digits => some (digits, text.dropWhile isDigit)

def readFraction : List Char → Option (List Char × List Char)
  | '.' :: rest =>
      match rest.takeWhile isDigit with
      | [] => none
      | digits => some ('.' :: digits, rest.dropWhile isDigit)
  | text => some ([], text)

def readExponent : List Char → Option (List Char × List Char)
  | mark :: rest =>
      if mark == 'e' || mark == 'E' then
        let (sign, rest) := match rest with
          | '+' :: rest => (['+'], rest)
          | '-' :: rest => (['-'], rest)
          | rest => ([], rest)
        match rest.takeWhile isDigit with
        | [] => none
        | digits => some (mark :: sign ++ digits, rest.dropWhile isDigit)
      else some ([], mark :: rest)
  | [] => some ([], [])

def ofDigits (digits : List Char) : Nat :=
  digits.foldl (fun total c => 10 * total + (c.toNat - '0'.toNat)) 0

def readNumber (text : List Char) : Option (Json × List Char) := do
  let (sign, rest) := match text with
    | '-' :: rest => (['-'], rest)
    | rest => ([], rest)
  let (digits, rest) ← readInteger rest
  let (fraction, rest) ← readFraction rest
  let (exponent, rest) ← readExponent rest
  let value := ofDigits digits
  if fraction.isEmpty && exponent.isEmpty && (sign.isEmpty || value != 0) then
    some (.int (if sign.isEmpty then value else -value), rest)
  else some (.literal (String.ofList (sign ++ digits ++ fraction ++ exponent)), rest)

/-! ## Values -/

mutual

def readValue : Nat → List Char → Option (Json × List Char)
  | 0, _ => none
  | steps + 1, text =>
      match skipBlank text with
      | 'n' :: 'u' :: 'l' :: 'l' :: rest => some (.null, rest)
      | 't' :: 'r' :: 'u' :: 'e' :: rest => some (.bool true, rest)
      | 'f' :: 'a' :: 'l' :: 's' :: 'e' :: rest => some (.bool false, rest)
      | '"' :: rest => readString rest
      | '[' :: rest =>
          match skipBlank rest with
          | ']' :: rest => some (.array [], rest)
          | rest => (readItems steps rest).map fun (items, rest) => (.array items, rest)
      | '\x7b' :: start =>
          match skipBlank start with
          | '\x7d' :: rest => some (.object [], rest)
          | text => do
              let (members, rest) ← readMembers steps text
              some ((ofMembers? members).getD (written ('\x7b' :: start) rest), rest)
      | text => readNumber text

def readItems : Nat → List Char → Option (List Json × List Char)
  | 0, _ => none
  | steps + 1, text => do
      let (item, rest) ← readValue steps text
      match skipBlank rest with
      | ',' :: rest =>
          let (items, rest) ← readItems steps rest
          some (item :: items, rest)
      | ']' :: rest => some ([item], rest)
      | _ => none

def readMembers : Nat → List Char → Option (List (Option String × Json) × List Char)
  | 0, _ => none
  | steps + 1, text =>
      match skipBlank text with
      | '"' :: rest => do
          let (key, rest) ← readKey rest
          match skipBlank rest with
          | ':' :: rest =>
              let (value, rest) ← readValue steps rest
              match skipBlank rest with
              | ',' :: rest =>
                  let (members, rest) ← readMembers steps rest
                  some ((key, value) :: members, rest)
              | '\x7d' :: rest => some ([(key, value)], rest)
              | _ => none
          | _ => none
      | _ => none

end

def parseChars (text : List Char) : Option Json := do
  let (value, rest) ← readValue (2 * text.length + 2) text
  if (skipBlank rest).isEmpty then some value else none

def parse (text : String) : Option Json := parseChars text.toList

end NativeBridge.Json
