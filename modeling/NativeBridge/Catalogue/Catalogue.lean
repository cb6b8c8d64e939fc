import NativeBridge.BindingError
import NativeBridge.Catalogue.Document

/-!
# Catalogues

A list of described types in which no two have the same reference, so that a reference finds at
most one of them.
-/

namespace NativeBridge

structure Catalogue where
  types : List TypeDescriptor := []
  deriving Repr, BEq, Inhabited

namespace Catalogue

def find? (catalogue : Catalogue) (reference : String) : Option TypeDescriptor :=
  catalogue.types.find? (·.type.reference == reference)

def push (catalogue : Catalogue) (descriptor : TypeDescriptor) : Except BindingError Catalogue :=
  let reference := descriptor.type.reference
  match catalogue.find? reference with
  | some _ => .error (.catalogue (.duplicateEntry reference))
  | none => .ok { types := catalogue.types ++ [descriptor] }

def ofTypes (types : List TypeDescriptor) : Except BindingError Catalogue :=
  types.foldlM push {}

def describe (catalogue : Catalogue) (type : TypeRef) : Except BindingError TypeDescriptor :=
  match catalogue.find? type.reference with
  | some descriptor => .ok descriptor
  | none => .error (.catalogue (.unknownType type.reference))

def listed (catalogue : Catalogue) : List TypeRef := catalogue.types.map (·.type)

def isPropertyObsolete (catalogue : Catalogue) (type : TypeRef) (name : String) :
    Except BindingError Bool := do
  let descriptor ← catalogue.describe type
  return (descriptor.property? name).any (·.obsolete)

/-! ## Documents -/

def ofJson (json : Json) : Except BindingError Catalogue :=
  match Document.types? Document.maxLevels json with
  | some types => ofTypes types
  | none => .error .json

def ofText (text : String) : Except BindingError Catalogue :=
  match Json.parse text with
  | some json => ofJson json
  | none => .error .json

def toText (catalogue : Catalogue) : String := (Document.encodeTypes catalogue.types).pretty

end Catalogue

end NativeBridge
