import NativeBridge.Text.Lines
import NativeBridge.Source.Token

/-!
# Comments in code

A comment reaches to the end of its line or to the end of its block, and blocks nest. Most comments
are gaps between tokens. One with a third mark documents: what follows it, or, if the mark is an
exclamation mark, what encloses it. It stands for an attribute, and none of its carriage returns may
stand without a line feed.
-/

namespace NativeBridge.Source

inductive CommentRole where
  | gap
  | outer
  | inner
  deriving DecidableEq, Repr

/-- The role of a comment by its text after the opening marks, the second of which is given. A
fourth mark takes the meaning of the third one back, and so does the end of the block. -/
def CommentRole.of (second : Char) : List Char → CommentRole
  | '!' :: _ => .inner
  | c :: rest =>
      if c ≠ second then .gap
      else match rest with
        | d :: _ => if d = second ∨ d = '/' then .gap else .outer
        | [] => .outer
  | [] => .gap

def lineComment (text : List Char) : List Char × List Char :=
  let comment := Text.firstLine text
  let rest := text.drop comment.length
  if !rest.isEmpty && comment.getLast? == some '\r' then (comment.dropLast, rest)
  else (comment, rest)

def blockComment? : Nat → List Char → Option (List Char × List Char)
  | depth, '/' :: '*' :: rest =>
      (blockComment? (depth + 1) rest).map fun (inside, rest) => ('/' :: '*' :: inside, rest)
  | 0, '*' :: '/' :: rest => some ([], rest)
  | depth + 1, '*' :: '/' :: rest =>
      (blockComment? depth rest).map fun (inside, rest) => ('*' :: '/' :: inside, rest)
  | depth, c :: rest => (blockComment? depth rest).map fun (inside, rest) => (c :: inside, rest)
  | _, [] => none

def hasBareReturn : List Char → Bool
  | '\r' :: '\n' :: rest => hasBareReturn rest
  | c :: rest => c == '\r' || hasBareReturn rest
  | [] => false

def commentTokens? (role : CommentRole) (comment : List Char) : Option (List Token) :=
  let doc := String.ofList (comment.drop 1)
  match role with
  | .gap => some []
  | .outer => if hasBareReturn comment then none else some (docTokens doc)
  | .inner => if hasBareReturn comment then none else some (innerDocTokens doc)

/-! ## Writing documentation as comments -/

def nestsEvenly : Nat → List Char → Bool
  | depth, '/' :: '*' :: rest => nestsEvenly (depth + 1) rest
  | 0, '*' :: '/' :: _ => false
  | depth + 1, '*' :: '/' :: rest => nestsEvenly depth rest
  | depth, _ :: rest => nestsEvenly depth rest
  | depth, [] => depth == 0

def joinTrimmed : List (List Char) → List Char
  | [] => []
  | [line] => line
  | line :: rest => (line.reverse.dropWhile (· == ' ')).reverse ++ '\n' :: joinTrimmed rest

/-- The documentation of a file as it is read back. One line is written as a comment; more lines are
written as a block, if blocks open and close evenly in them, and as they are otherwise. -/
def writtenDoc? (doc : String) : Option String :=
  let text := doc.toList
  if '\n' ∉ text then if '\r' ∈ text then none else some doc
  else if nestsEvenly 0 text && text.getLast? != some '/' then
    let block := joinTrimmed (Text.lines text)
    if hasBareReturn block then none else some (String.ofList block)
  else some doc

end NativeBridge.Source
