import NativeBridge.Source.CodePath
import NativeBridge.Source.CodeType

/-!
# Reading types

The grammar with which the program runs. Of the types it reads paths with or without type arguments,
borrowed and raw pointers, slices, arrays, tuples, and holes. A type keeps the tokens it was read
from, in one written form: without empty brackets of arguments, without a comma before a closing
bracket unless it makes a tuple of one type, and without the double colon before arguments.
-/

namespace NativeBridge.Source

def placeWords : List String := ["super", "self", "crate", "try"]

def beginsType : Token → Bool
  | .word "try" => false
  | _ => true

def splitMarks (tokens : List Token) : List Token :=
  tokens.flatMap fun token => if token = .mark "&&" then [.mark "&", .mark "&"] else [token]

def readLength : List Token → Option Reading
  | .mark "::" :: rest =>
      (readNames moduleWords rest).map fun (names, rest) => (.mark "::" :: names, rest)
  | token :: rest =>
      if token.isConstant then some ([token], rest) else readNames moduleWords (token :: rest)
  | [] => none

mutual

/-- Reads a type. The fuel bounds the depth of the reading. -/
def readType : Nat → List Token → Option Reading
  | 0, _ => none
  | fuel + 1, tokens =>
      match tokens with
      | .word "_" :: rest => some ([.word "_"], rest)
      | .mark "&" :: .word "mut" :: rest => do
          let (target, rest) ← readType fuel rest
          some ([.mark "&", .word "mut"] ++ target, rest)
      | .mark "&" :: rest => do
          let (target, rest) ← readType fuel rest
          some ([.mark "&"] ++ target, rest)
      | .mark "*" :: .word "const" :: rest => do
          let (target, rest) ← readType fuel rest
          some ([.mark "*", .word "const"] ++ target, rest)
      | .mark "*" :: .word "mut" :: rest => do
          let (target, rest) ← readType fuel rest
          some ([.mark "*", .word "mut"] ++ target, rest)
      | .mark "(" :: .mark ")" :: rest => some (parens [], rest)
      | .mark "(" :: rest => do
          let (first, rest) ← readType fuel rest
          match rest with
          | .mark ")" :: rest => some (parens first, rest)
          | .mark "," :: rest =>
              let (items, rest) ← readItems fuel (.mark ")") rest
              match items with
              | [] => some (parens (first ++ [.mark ","]), rest)
              | items => some (parens (commaSeparated (first :: items)), rest)
          | _ => none
      | .mark "[" :: rest => do
          let (item, rest) ← readType fuel rest
          match rest with
          | .mark "]" :: rest => some (brackets item, rest)
          | .mark ";" :: rest =>
              let (length, rest) ← readLength rest
              match rest with
              | .mark "]" :: rest => some (brackets (item ++ [.mark ";"] ++ length), rest)
              | _ => none
          | _ => none
      | .mark "::" :: rest => do
          let (path, rest) ← readPath fuel rest
          some ([.mark "::"] ++ path, rest)
      | token :: rest => if beginsType token then readPath fuel (token :: rest) else none
      | [] => none

def readItems : Nat → Token → List Token → Option (List (List Token) × List Token)
  | 0, _, _ => none
  | fuel + 1, closing, tokens =>
      match tokens with
      | [] => none
      | token :: rest =>
          if token = closing then some ([], rest)
          else do
            let (item, rest) ← readItem fuel closing (token :: rest)
            match rest with
            | .mark "," :: rest =>
                let (items, rest) ← readItems fuel closing rest
                some (item :: items, rest)
            | next :: rest => if next = closing then some ([item], rest) else none
            | [] => none

def readItem : Nat → Token → List Token → Option Reading
  | 0, _, _ => none
  | _ + 1, _, [] => none
  | fuel + 1, closing, token :: rest =>
      if closing == .mark ">" && token.isConstant then some ([token], rest)
      else readType fuel (token :: rest)

def readPath : Nat → List Token → Option Reading
  | 0, _ => none
  | fuel + 1, tokens => do
      let (segment, rest) ← readSegment fuel tokens
      match rest with
      | .mark "::" :: rest =>
          let (path, rest) ← readPath fuel rest
          some (segment ++ [.mark "::"] ++ path, rest)
      | rest => some (segment, rest)

def readSegment : Nat → List Token → Option Reading
  | 0, _ => none
  | _ + 1, [] => none
  | fuel + 1, token :: rest =>
      match token with
      | .word word =>
          if word ∈ placeWords then some ([token], rest)
          else if isSegmentName token then readArguments fuel token rest
          else none
      | .rawWord _ => if isSegmentName token then readArguments fuel token rest else none
      | _ => none

def readArguments : Nat → Token → List Token → Option Reading
  | 0, _, _ => none
  | fuel + 1, name, tokens =>
      match tokens with
      | .mark "<" :: rest | .mark "::" :: .mark "<" :: rest => do
          let (items, rest) ← readItems fuel (.mark ">") rest
          match items with
          | [] => some ([name], rest)
          | items => some ([name, .mark "<"] ++ commaSeparated items ++ [.mark ">"], rest)
      | rest => some ([name], rest)

end

def typeOfText? (text : String) : Option CodeType := do
  let tokens := splitMarks (← tokens? text)
  match readType (6 * tokens.length + 6) tokens with
  | some (tokens, []) => some { tokens }
  | _ => none

/-- Whether code with types like these reads as a file: unless a path begins with the one word that
begins a path but no type. -/
def isReadable : List Token → Bool
  | [] => true
  | .word "try" :: _ => false
  | .mark "::" :: .word _ :: rest => isReadable rest
  | _ :: rest => isReadable rest

-- Whatever grammar is at hand is taken before this one.
instance (priority := low) reader : Grammar where
  type? := typeOfText?
  parses := isReadable
  prints _ := true

end NativeBridge.Source
