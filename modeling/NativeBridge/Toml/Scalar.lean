import NativeBridge.Text.Hex
import NativeBridge.Toml.Table

/-!
# Strings, numbers and dates of TOML

Every reader answers what it read and the rest of the text, or nothing. Strings are kept; numbers
and dates are only checked.
-/

namespace NativeBridge.Toml

/-! ## Characters -/

def isSpace (c : Char) : Bool := c == ' ' || c == '\t'

def skipSpace (text : List Char) : List Char := text.dropWhile isSpace

def isTextChar (c : Char) : Bool := c == '\t' || (0x20 ≤ c.toNat && c.toNat ≠ 0x7f)

def isDigit (c : Char) : Bool := '0' ≤ c && c ≤ '9'

/-! ## Strings -/

def namedEscape? (c : Char) : Option Char :=
  match c with
  | 'b' => some '\x08'
  | 't' => some '\t'
  | 'n' => some '\n'
  | 'f' => some '\x0c'
  | 'r' => some '\r'
  | '"' => some '"'
  | '\\' => some '\\'
  | _ => none

def codePoint? (digits : List Char) : Option Char := do
  let n ← Text.ofHex? digits
  if n.isValidChar then some (Char.ofNat n) else none

def readEscape : List Char → Option (Char × List Char)
  | 'u' :: a :: b :: c :: d :: rest => do some (← codePoint? [a, b, c, d], rest)
  | 'U' :: a :: b :: c :: d :: e :: f :: g :: h :: rest => do
      some (← codePoint? [a, b, c, d, e, f, g, h], rest)
  | letter :: rest => do some (← namedEscape? letter, rest)
  | [] => none

def readBasic : Nat → List Char → Option (List Char × List Char)
  | 0, _ => none
  | _ + 1, '"' :: rest => some ([], rest)
  | steps + 1, '\\' :: rest => do
      let (c, rest) ← readEscape rest
      let (text, rest) ← readBasic steps rest
      some (c :: text, rest)
  | steps + 1, c :: rest =>
      if isTextChar c then do
        let (text, rest) ← readBasic steps rest
        some (c :: text, rest)
      else none
  | _ + 1, [] => none

def readLiteral (text : List Char) : Option (List Char × List Char) :=
  let inside := text.takeWhile fun c => isTextChar c && c ≠ '\''
  match text.dropWhile fun c => isTextChar c && c ≠ '\'' with
  | '\'' :: rest => some (inside, rest)
  | _ => none

def dropFirstBreak : List Char → List Char
  | '\n' :: rest => rest
  | '\x0d' :: '\n' :: rest => rest
  | text => text

/-- The quotes that belong to a string of several lines although they stand at its end: of a run of
three to five quotes the last three close it. -/
def closingQuotes (run : Nat) : Nat := min (run - 3) 2

def skipBreaks : Bool → List Char → Option (List Char)
  | broken, ' ' :: rest => skipBreaks broken rest
  | broken, '\t' :: rest => skipBreaks broken rest
  | _, '\n' :: rest => skipBreaks true rest
  | _, '\x0d' :: '\n' :: rest => skipBreaks true rest
  | broken, rest => if broken then some rest else none

def readLines (quote : Char) : Nat → List Char → Option (List Char × List Char)
  | 0, _ => none
  | _ + 1, [] => none
  | steps + 1, '\n' :: rest => do
      let (text, rest) ← readLines quote steps rest
      some ('\n' :: text, rest)
  | steps + 1, '\x0d' :: '\n' :: rest => do
      let (text, rest) ← readLines quote steps rest
      some ('\n' :: text, rest)
  | steps + 1, c :: rest =>
      if c = quote then
        let run := (c :: rest).takeWhile (· = quote)
        let after := (c :: rest).dropWhile (· = quote)
        if run.length < 3 then do
          let (text, rest) ← readLines quote steps after
          some (run ++ text, rest)
        else
          let kept := closingQuotes run.length
          some (List.replicate kept quote, (c :: rest).drop (kept + 3))
      else if c = '\\' ∧ quote = '"' then
        match skipBreaks false rest with
        | some rest => readLines quote steps rest
        | none => do
            let (escaped, rest) ← readEscape rest
            let (text, rest) ← readLines quote steps rest
            some (escaped :: text, rest)
      else if isTextChar c then do
        let (text, rest) ← readLines quote steps rest
        some (c :: text, rest)
      else none

def readString (text : List Char) : Option (List Char × List Char) :=
  match text with
  | '"' :: '"' :: '"' :: rest => readLines '"' (rest.length + 1) (dropFirstBreak rest)
  | '\'' :: '\'' :: '\'' :: rest => readLines '\'' (rest.length + 1) (dropFirstBreak rest)
  | '"' :: rest => readBasic (rest.length + 1) rest
  | '\'' :: rest => readLiteral rest
  | _ => none

/-! ## Numbers -/

def readDigits (isDigit : Char → Bool) : List Char → Option (List Char × List Char)
  | c :: '_' :: rest =>
      if isDigit c then do
        let (digits, rest) ← readDigits isDigit rest
        some (c :: digits, rest)
      else none
  | c :: rest =>
      if isDigit c then
        match readDigits isDigit rest with
        | some (digits, rest) => some (c :: digits, rest)
        | none => some ([c], rest)
      else none
  | [] => none

def readSign : List Char → Bool × List Char
  | '+' :: rest => (false, rest)
  | '-' :: rest => (true, rest)
  | rest => (false, rest)

def readWhole (text : List Char) : Option (List Char × List Char) :=
  match text with
  | '0' :: rest => some (['0'], rest)
  | text => readDigits isDigit text

def ofDigits (base : Nat) (digits : List Char) : Nat :=
  digits.foldl (fun total c => base * total + (Text.hexValue? c).getD 0) 0

def readInteger (text : List Char) : Option (Value × List Char) :=
  let based (base : Nat) (isDigit : Char → Bool) (rest : List Char) :
      Option (Value × List Char) := do
    let (digits, rest) ← readDigits isDigit rest
    if ofDigits base digits < 0x8000000000000000 then some (.integer, rest) else none
  match text with
  | '0' :: 'x' :: rest => based 16 (fun c => (Text.hexValue? c).isSome) rest
  | '0' :: 'o' :: rest => based 8 (fun c => '0' ≤ c && c ≤ '7') rest
  | '0' :: 'b' :: rest => based 2 (fun c => c == '0' || c == '1') rest
  | text => do
      let (negative, rest) := readSign text
      let (digits, rest) ← readWhole rest
      let bound := if negative then 0x8000000000000001 else 0x8000000000000000
      if ofDigits 10 digits < bound then some (.integer, rest) else none

def overflows (digits : List Char) (power : Int) : Bool :=
  let digits := digits.dropWhile (· == '0')
  let places : Int := digits.length + power
  if digits.isEmpty || places < 300 then false
  else if places > 320 then true
  else
    let limit := Nat.pow 2 1024 - Nat.pow 2 970
    let n := ofDigits 10 digits
    if power ≥ 0 then limit ≤ n * Nat.pow 10 power.toNat
    else limit * Nat.pow 10 (-power).toNat ≤ n

def readFraction : List Char → Option (List Char × List Char)
  | '.' :: rest => readDigits isDigit rest
  | rest => some ([], rest)

def readPower : List Char → Option (Option Int × List Char)
  | mark :: rest =>
      if mark == 'e' || mark == 'E' then do
        let (negative, rest) := readSign rest
        let (digits, rest) ← readDigits isDigit rest
        let power : Int := ofDigits 10 digits
        some (some (if negative then -power else power), rest)
      else some (none, mark :: rest)
  | [] => some (none, [])

def readFloat (text : List Char) : Option (Value × List Char) := do
  let (negative, rest) := readSign text
  match rest with
  | 'i' :: 'n' :: 'f' :: rest => some (.float, rest)
  | 'n' :: 'a' :: 'n' :: rest => some (.float, rest)
  | rest =>
      let (whole, rest) ← readWhole rest
      let (fraction, rest) ← readFraction rest
      let (power, rest) ← readPower rest
      if fraction.isEmpty && power.isNone then none
      else if !negative && overflows (whole ++ fraction) (power.getD 0 - fraction.length) then none
      else some (.float, rest)

/-! ## Dates -/

def readField (count low high : Nat) (text : List Char) : Option (Nat × List Char) :=
  let digits := text.take count
  if digits.length = count ∧ digits.all isDigit then
    let n := ofDigits 10 digits
    if low ≤ n ∧ n ≤ high then some (n, text.drop count) else none
  else none

def readMark (mark : Char) : List Char → Option (List Char)
  | c :: rest => if c = mark then some rest else none
  | [] => none

def daysIn (year month : Nat) : Nat :=
  if month = 2 then
    if year % 4 = 0 ∧ (year % 100 ≠ 0 ∨ year % 400 = 0) then 29 else 28
  else if month = 4 ∨ month = 6 ∨ month = 9 ∨ month = 11 then 30
  else 31

def readDay (text : List Char) : Option (List Char) := do
  let (year, rest) ← readField 4 0 9999 text
  let rest ← readMark '-' rest
  let (month, rest) ← readField 2 1 12 rest
  let rest ← readMark '-' rest
  let (_, rest) ← readField 2 1 (daysIn year month) rest
  some rest

def readTime (text : List Char) : Option (List Char) := do
  let (_, rest) ← readField 2 0 23 text
  let rest ← readMark ':' rest
  let (_, rest) ← readField 2 0 59 rest
  let rest ← readMark ':' rest
  let (_, rest) ← readField 2 0 60 rest
  match rest with
  | '.' :: c :: after => if isDigit c then some (after.dropWhile isDigit) else some rest
  | rest => some rest

def readZone (text : List Char) : List Char :=
  match text with
  | 'Z' :: rest => rest
  | 'z' :: rest => rest
  | c :: rest =>
      let distance : Option (List Char) := do
        let (_, rest) ← readField 2 0 23 rest
        let rest ← readMark ':' rest
        let (_, rest) ← readField 2 0 59 rest
        some rest
      if c == '+' || c == '-' then distance.getD (c :: rest) else c :: rest
  | [] => []

def readDate (text : List Char) : Option (Value × List Char) :=
  match readDay text with
  | some rest =>
      match rest with
      | c :: after =>
          if c == 'T' || c == 't' || c == ' ' then
            match readTime after with
            | some after => some (.date, readZone after)
            | none => some (.date, rest)
          else some (.date, rest)
      | [] => some (.date, [])
  | none => (readTime text).map fun rest => (.date, rest)

def readNumber (text : List Char) : Option (Value × List Char) :=
  match readDate text with
  | some read => some read
  | none =>
      match readFloat text with
      | some read => some read
      | none => readInteger text

end NativeBridge.Toml
