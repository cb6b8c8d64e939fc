import NativeBridge.Source.CodePath

/-!
# Attributes of a file

Tokens as the attributes that a file begins with. An attribute holds a name, and after it a value or
a group of any tokens whose brackets fit.
-/

namespace NativeBridge.Source

def closing? : Token → Option Token
  | .mark "(" => some (.mark ")")
  | .mark "[" => some (.mark "]")
  | .mark "\x7b" => some (.mark "\x7d")
  | _ => none

def isClosing (token : Token) : Bool :=
  token == .mark ")" || token == .mark "]" || token == .mark "\x7d"

/-- Reads tokens up to the marks that close the open groups, the innermost of which comes first. -/
def readGroups : List Token → List Token → Option Reading
  | [], rest => some ([], rest)
  | _ :: _, [] => none
  | closing :: outer, token :: rest =>
      let groups? :=
        if token = closing then some outer
        else if isClosing token then none
        else match closing? token with
          | some inner => some (inner :: closing :: outer)
          | none => some (closing :: outer)
      groups?.bind fun groups => (readGroups groups rest).map fun (inside, rest) =>
        (token :: inside, rest)

def isAttributeContent (content : List Token) : Bool :=
  let names := match content with
    | .mark "::" :: rest => readNames moduleWords rest
    | content => readNames moduleWords content
  match names with
  | none => false
  | some (_, []) => true
  | some (_, [.mark "=", value]) => value.isConstant
  | some (_, token :: rest) =>
      match closing? token with
      | none => false
      | some closing => ((readGroups [closing] rest).map (·.2)) == some []

def readAttributes : Nat → List Token → Option (List (List Token))
  | _, [] => some []
  | 0, _ :: _ => none
  | steps + 1, .mark "#" :: .mark "!" :: .mark "[" :: rest => do
      let (content, rest) ← readGroups [.mark "]"] rest
      let attributes ← readAttributes steps rest
      if isAttributeContent content.dropLast then
        some (innerAttribute content.dropLast :: attributes)
      else none
  | _ + 1, _ :: _ => none

def attributes? (tokens : List Token) : Option (List (List Token)) :=
  readAttributes tokens.length tokens

end NativeBridge.Source
