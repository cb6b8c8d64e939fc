import NativeBridge.Text.Blank
import NativeBridge.Source.Comment
import NativeBridge.Source.Number

/-!
# Reading code as tokens

`scan` splits a text into tokens. White space and comments stand between tokens; a text with a
character that begins no token, with half a literal, or with a block comment that does not end has
no tokens at all. It is used for the fixed phrases of emitted code and for the names and types of a
catalogue.
-/

namespace NativeBridge.Source

def isGap (c : Char) : Bool := Text.isBlank c || c == '\u200e' || c == '\u200f'

/-- The characters of the marks. A quote is one only as part of a lifetime. -/
def markChars : List Char := "~!@#$%^&*-=+|;:,<.>/?()[]\x7b\x7d".toList

def isPair : Char → Char → Bool
  | ':', ':' | '-', '>' | '=', '>' | '=', '=' | '!', '=' | '&', '&' => true
  | _, _ => false

def wordOf (text : List Char) : String := String.ofList (text.takeWhile Text.isIdentifierContinue)

def readWord? (token : String → Token) (text : List Char) : Option (Token × List Char) :=
  match text with
  | c :: rest => if startsWord c then some (token (wordOf (c :: rest)), afterWord rest) else none
  | [] => none

def neverRaw : List String := ["_", "crate", "self", "Self", "super"]

def readRawWord? (text : List Char) : Option (Token × List Char) :=
  if wordOf text ∈ neverRaw then none else readWord? .rawWord text

def readLifetime? (text : List Char) : Option (Token × List Char) :=
  match readWord? .lifetime text with
  | some (_, '\'' :: _) | some (_, '#' :: _) => none
  | reading => reading

def readLiteral? (text : List Char) : Option (Token × List Char) :=
  let value := text.takeWhile fun c => c != '"' && c != '\\' && c != '\r'
  match text.drop value.length with
  | '"' :: rest => some (.literal (String.ofList value), rest)
  | _ => none

def readBrokenLiteral? (text : List Char) : Option (Token × List Char) :=
  let spelling := Token.brokenLiteral.text.toList
  if spelling.isPrefixOf text then some (.brokenLiteral, text.drop spelling.length) else none

def readMark? (c : Char) (rest : List Char) : Option (Token × List Char) :=
  if c ∈ markChars then
    match rest with
    | d :: more =>
        if isPair c d then some (.mark (String.ofList [c, d]), more)
        else some (.mark (String.singleton c), rest)
    | [] => some (.mark (String.singleton c), [])
  else none

def readToken? (c : Char) (rest : List Char) : Option (Token × List Char) :=
  match c, rest with
  | 'r', '#' :: rest => readRawWord? rest
  | '"', rest => readLiteral? rest
  | '\'', rest => readLifetime? rest
  | '(', rest => (readBrokenLiteral? ('(' :: rest)).or (readMark? '(' rest)
  | c, rest =>
      if startsWord c then readWord? .word (c :: rest)
      else if Text.isAsciiDigit c then
        (afterNumber? (c :: rest)).map fun after =>
          (.number (String.ofList ((c :: rest).take (rest.length + 1 - after.length))), after)
      else readMark? c rest

def readNext? (c : Char) (rest : List Char) : Option (List Token × List Char) :=
  match c, rest with
  | '/', '/' :: text =>
      let (comment, rest) := lineComment text
      (commentTokens? (.of '/' text) comment).map (·, rest)
  | '/', '*' :: text => do
      let (comment, rest) ← blockComment? 0 text
      let tokens ← commentTokens? (.of '*' text) comment
      some (tokens, rest)
  | c, rest =>
      if isGap c then some ([], rest)
      else (readToken? c rest).map fun (token, rest) => ([token], rest)

def scanSteps : Nat → List Char → Option (List Token)
  | _, [] => some []
  | 0, _ :: _ => none
  | steps + 1, c :: rest => do
      let (tokens, rest) ← readNext? c rest
      let more ← scanSteps steps rest
      some (tokens ++ more)

def scan (text : List Char) : Option (List Token) := scanSteps text.length text

def tokens? (text : String) : Option (List Token) :=
  match text.toList with
  | '\ufeff' :: rest => scan rest
  | text => scan text

def code (text : String) : List Token := (scan text.toList).getD []

end NativeBridge.Source
