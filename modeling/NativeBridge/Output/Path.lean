/-!
# Paths

A path is a text of names between slashes. It leads from the root, if it begins with a slash, and
otherwise from the folder at hand. The name `.` stays where it is, and `..` goes one folder up.
-/

namespace NativeBridge

structure Path where
  fromRoot : Bool := false
  steps : List String
  toFolder : Bool := false
  deriving DecidableEq, Repr, Inhabited

namespace Path

def maxNameBytes : Nat := 255

def maxBytes : Nat := 4095

def namesOf (text : List Char) : List String :=
  ((text.splitOn '/').filter (!·.isEmpty)).map String.ofList

def ofText? (text : String) : Option Path :=
  if maxBytes < text.utf8ByteSize then none
  else some {
    fromRoot := text.toList.head? == some '/'
    steps := namesOf text.toList
    toFolder := text.toList.getLast? == some '/' }

def essentialSteps (path : Path) : List String :=
  match path.fromRoot, path.steps with
  | false, first :: rest => first :: rest.filter (· != ".")
  | _, steps => steps.filter (· != ".")

def above (path : Path) : List Path :=
  let steps := path.essentialSteps
  ((List.range steps.length).drop 1).reverse.map fun count =>
    { fromRoot := path.fromRoot, steps := steps.take count }

end Path

end NativeBridge
