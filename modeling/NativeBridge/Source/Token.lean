import NativeBridge.Text.Quoted

/-!
# Tokens of emitted code

Emitted code is a list of tokens, so that a text of the catalogue can reach it only as a literal, or
as a word that was checked.
-/

namespace NativeBridge.Source

inductive Token where
  | word (text : String)
  | rawWord (text : String)
  | number (text : String)
  | literal (value : String)
  /-- The place of a literal that could not be written. It counts as a literal without a value. -/
  | brokenLiteral
  | lifetime (name : String)
  | mark (text : String)
  deriving DecidableEq, Repr, Inhabited

def Token.text : Token → String
  | .word text => text
  | .rawWord text => "r#" ++ text
  | .number text => text
  | .literal value => Text.quoted value
  | .brokenLiteral => "(/*ERROR*/)"
  | .lifetime name => "'" ++ name
  | .mark text => text

def Token.isConstant : Token → Bool
  | .number _ | .literal _ | .brokenLiteral | .word "true" | .word "false" => true
  | _ => false

def line (tokens : List Token) : String := " ".intercalate (tokens.map Token.text)

/-! ## Putting tokens together -/

def parens (tokens : List Token) : List Token := [.mark "("] ++ tokens ++ [.mark ")"]

def brackets (tokens : List Token) : List Token := [.mark "["] ++ tokens ++ [.mark "]"]

def braces (tokens : List Token) : List Token := [.mark "\x7b"] ++ tokens ++ [.mark "\x7d"]

def commaSeparated : List (List Token) → List Token
  | [] => []
  | [tokens] => tokens
  | tokens :: rest => tokens ++ [.mark ","] ++ commaSeparated rest

def sizeNumber (n : Nat) : List Token := [.number (toString n ++ "usize")]

/-! ## Attributes -/

def docTokens (doc : String) : List Token :=
  [.mark "#"] ++ brackets [.word "doc", .mark "=", .literal doc]

def innerAttribute (content : List Token) : List Token :=
  [.mark "#", .mark "!"] ++ brackets content

def innerDocTokens (doc : String) : List Token :=
  innerAttribute [.word "doc", .mark "=", .literal doc]

end NativeBridge.Source
