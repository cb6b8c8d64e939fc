import NativeBridge.Catalogue.TypeRef
import NativeBridge.Text.IdentifierChars

/-!
# Names of types and methods

Every type has two names, both made by recursion through nesting and generic arguments.

- The *reference* is the type as native code writes it, such as `demo::Map<i32, demo::Box>`.
- The *identifier* is flat. An underscore followed by anything but a digit separates segments; one
  followed by a digit is a mark: `_0` for an underscore, `_1` and six digits for a character that
  is no letter or digit (or for a digit that starts a segment), `_2` before the name of a nested
  type, `_3` before each generic argument and `_5` after the last one.
-/

namespace NativeBridge

/-! ## Simple names -/

def splitLast (mark : Char) : List Char → Option (List Char × List Char)
  | [] => none
  | c :: rest =>
      match splitLast mark rest with
      | some (before, after) => some (c :: before, after)
      | none => if c = mark then some ([], rest) else none

def splitFirst (mark : Char) : List Char → Option (List Char × List Char)
  | [] => none
  | c :: rest =>
      if c = mark then some ([], rest)
      else (splitFirst mark rest).map fun (before, after) => (c :: before, after)

def arity? (text : List Char) : Option Nat :=
  let digits := match text with
    | '+' :: rest => rest
    | text => text
  if digits.isEmpty || !digits.all Text.isAsciiDigit then none
  else some (digits.foldl (fun total c => 10 * total + (c.toNat - '0'.toNat)) 0)

/-- A name without its arity marker. The marker goes only if there are generic arguments and it
gives their number. -/
def baseChars (name : List Char) (argCount : Nat) : List Char :=
  match splitLast '\x60' name with
  | some (base, arity) => if argCount ≠ 0 ∧ arity? arity = some argCount then base else name
  | none => name

/-- The simple name that both names of a type are made from: primitives are spelled by their kind. -/
def canonicalChars (category : Category) (name : String) (argCount : Nat) : List Char :=
  match category with
  | .void => ['(', ')']
  | .primitive =>
      match Kind.ofPrimitiveName? name with
      | some kind => kind.typeName.toList
      | none => name.toList
  | _ => baseChars name.toList argCount

def splitSegments : List Char → List (List Char)
  | [] => [[]]
  | ':' :: ':' :: rest => [] :: splitSegments rest
  | c :: rest =>
      if c = '.' then [] :: splitSegments rest
      else match splitSegments rest with
        | segment :: segments => (c :: segment) :: segments
        | [] => [[c]]

def namespaceSegments (space : String) : List (List Char) :=
  if space.toList.isEmpty then [] else splitSegments space.toList

namespace TypeRef

def baseName (ty : TypeRef) : String := String.ofList (baseChars ty.name.toList ty.args.length)

def canonicalName (ty : TypeRef) : List Char := canonicalChars ty.category ty.name ty.args.length

/-! ## References -/

mutual

def referenceChars : TypeRef → List Char
  | ⟨space, name, parent, args, category, _⟩ =>
      enclosingReference space parent ++ canonicalChars category name args.length ++
        argumentReferences args

def enclosingReference (space : String) : Option TypeRef → List Char
  | some parent => referenceChars parent ++ [':', ':']
  | none => (namespaceSegments space).flatMap fun segment => segment ++ [':', ':']

def argumentReferences : List TypeRef → List Char
  | [] => []
  | arg :: rest => ['<'] ++ referenceChars arg ++ furtherReferences rest

def furtherReferences : List TypeRef → List Char
  | [] => ['>']
  | arg :: rest => [',', ' '] ++ referenceChars arg ++ furtherReferences rest

end

def reference (ty : TypeRef) : String := String.ofList ty.referenceChars

end TypeRef

/-! ## Identifiers -/

def segmentChar (isFirst : Bool) (c : Char) : List Char :=
  if Text.isAsciiLetter c || (Text.isAsciiDigit c && !isFirst) then [c]
  else if c = '_' then ['_', '0']
  else ['_', '1'] ++ Text.paddedHex 6 c.toNat

def segmentChars : List Char → List Char
  | [] => []
  | c :: rest => segmentChar true c ++ rest.flatMap (segmentChar false)

namespace TypeRef

mutual

def identChars : TypeRef → List Char
  | ⟨space, name, parent, args, category, _⟩ =>
      enclosingIdent space parent ++ segmentChars (canonicalChars category name args.length) ++
        argumentIdents args

def enclosingIdent (space : String) : Option TypeRef → List Char
  | some parent => identChars parent ++ ['_', '2']
  | none => (namespaceSegments space).flatMap fun segment => segmentChars segment ++ ['_']

def argumentIdents : List TypeRef → List Char
  | [] => []
  | arg :: rest => ['_', '3'] ++ identChars arg ++ furtherIdents rest

def furtherIdents : List TypeRef → List Char
  | [] => ['_', '5']
  | arg :: rest => ['_', '3'] ++ identChars arg ++ furtherIdents rest

end

def ident (ty : TypeRef) : String := String.ofList ty.identChars

def bindingIdent (ty : TypeRef) (suffix : String) : String := ty.ident ++ suffix

end TypeRef

/-! ## Methods -/

def sanitizedChars (name : List Char) : List Char :=
  let word := name.map fun c => if Text.isAsciiWord c then c else '_'
  match word with
  | [] => ['_']
  | c :: _ => if Text.isAsciiDigit c then '_' :: word else word

def sanitized (name : String) : String := String.ofList (sanitizedChars name.toList)

def trampolineIdent (name : String) (ordinal : Nat) : String :=
  sanitized name ++ "_" ++ toString ordinal

end NativeBridge
