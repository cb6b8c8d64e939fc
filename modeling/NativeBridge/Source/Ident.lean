import NativeBridge.BindingError
import NativeBridge.Source.Scan

/-!
# Identifiers of emitted code

A name can be written in code if it is one word and no keyword. A keyword can be marked as a raw
identifier, apart from the few that are path segments by themselves.
-/

namespace NativeBridge.Source

def keywords : List String :=
  ["abstract", "as", "async", "await", "become", "box", "break", "const", "continue", "crate", "do",
    "dyn", "else", "enum", "extern", "false", "final", "fn", "for", "if", "impl", "in", "let",
    "loop", "macro", "match", "mod", "move", "mut", "override", "priv", "pub", "ref", "return",
    "Self", "self", "static", "struct", "super", "trait", "true", "try", "type", "typeof",
    "unsafe", "unsized", "use", "virtual", "where", "while", "yield"]

structure Ident where
  name : String
  isRaw : Bool := false
  deriving DecidableEq, Repr, Inhabited

namespace Ident

def token (ident : Ident) : Token := if ident.isRaw then .rawWord ident.name else .word ident.name

def text (ident : Ident) : String := ident.token.text

def ofToken? : Token → Option Ident
  | .word name => if name = "_" ∨ name ∈ keywords then none else some { name }
  | .rawWord name => some { name, isRaw := true }
  | _ => none

def ofText? (text : String) : Option Ident :=
  match tokens? text with
  | some [token] => ofToken? token
  | _ => none

def ofName (name : String) : Except RenderFault Ident :=
  match ofText? name with
  | some ident => .ok ident
  | none =>
      match ofText? ("r#" ++ name) with
      | some ident => .ok ident
      | none => .error (.notIdentifier name)

end Ident

end NativeBridge.Source
