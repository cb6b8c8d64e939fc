import NativeBridge.Source.Ident

/-!
# The grammar of emitted code

A reference of the catalogue can be written in code if it reads as a type, and code can be written
to a file if it reads as one and can be printed. How types and files are read, and which of them can
be printed, is no matter of the emitter: everything that is emitted has the grammar as a parameter.
-/

namespace NativeBridge.Source

structure CodeType where
  tokens : List Token
  deriving DecidableEq, Repr, Inhabited

/-- What the emitter asks of the language that it writes: the type that a text reads as, whether code
reads as a file, and whether the printer, which knows less than the reader, gets to its end. -/
class Grammar where
  type? : String → Option CodeType
  parses : List Token → Bool
  prints : List Token → Bool

def Grammar.accepts [Grammar] (tokens : List Token) : Bool := parses tokens && prints tokens

def CodeType.ofReference [Grammar] (reference : String) : Except RenderFault CodeType :=
  match Grammar.type? reference with
  | some type => .ok type
  | none => .error (.notType reference)

end NativeBridge.Source
