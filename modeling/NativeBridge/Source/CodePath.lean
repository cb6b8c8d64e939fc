import NativeBridge.Source.Ident

/-!
# Paths of emitted code

A path without arguments is a list of names between double colons. The path of the runtime is one,
and so is what an attribute begins with.
-/

namespace NativeBridge.Source

abbrev Reading := List Token × List Token

def isSegmentName (token : Token) : Bool := token == .word "Self" || (Ident.ofToken? token).isSome

def moduleWords : List Token := [.word "super", .word "self", .word "crate"]

def readNames (places : List Token) : List Token → Option Reading
  | name :: .mark "::" :: rest =>
      if isSegmentName name || name ∈ places then
        (readNames places rest).map fun (names, rest) => ([name, .mark "::"] ++ names, rest)
      else none
  | name :: rest => if isSegmentName name || name ∈ places then some ([name], rest) else none
  | [] => none

/-- The path that a text reads as, if it has neither arguments nor a double colon in front. -/
def pathOfText? (text : String) : Option (List Token) := do
  let tokens ← tokens? text
  match readNames (.word "try" :: moduleWords) tokens with
  | some (path, []) => some path
  | _ => none

end NativeBridge.Source
