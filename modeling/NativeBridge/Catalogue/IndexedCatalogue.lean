import NativeBridge.Catalogue.Catalogue
import NativeBridge.Entries

/-!
# Catalogues with an index

The descriptions of a catalogue in the order in which they were added, and beside them an index
that files the place of each reference. A reference is looked up in the index alone, so an answer
is right only as long as the index and the list are in step.
-/

namespace NativeBridge

structure IndexedCatalogue where
  types : List TypeDescriptor := []
  index : List (String × Nat) := []
  deriving Repr, Inhabited

namespace IndexedCatalogue

def add (catalogue : IndexedCatalogue) (descriptor : TypeDescriptor) : IndexedCatalogue where
  types := catalogue.types ++ [descriptor]
  index := insertEntry descriptor.type.reference catalogue.types.length catalogue.index

def push (catalogue : IndexedCatalogue) (descriptor : TypeDescriptor) :
    Except BindingError Unit × IndexedCatalogue :=
  let reference := descriptor.type.reference
  match catalogue.index.lookup reference with
  | some _ => (.error (.catalogue (.duplicateEntry reference)), catalogue)
  | none => (.ok (), catalogue.add descriptor)

def pushAll (catalogue : IndexedCatalogue) :
    List TypeDescriptor → List (Except BindingError Unit) × IndexedCatalogue
  | [] => ([], catalogue)
  | descriptor :: rest =>
      let (answer, next) := catalogue.push descriptor
      let (answers, last) := next.pushAll rest
      (answer :: answers, last)

def accepted (descriptors : List TypeDescriptor) (answers : List (Except BindingError Unit)) :
    List TypeDescriptor :=
  ((descriptors.zip answers).filter (·.2.isOk)).map (·.1)

def extend (catalogue : IndexedCatalogue) (descriptor : TypeDescriptor) :
    Except BindingError IndexedCatalogue :=
  let (answer, next) := catalogue.push descriptor
  answer.map fun _ => next

def ofTypes (types : List TypeDescriptor) : Except BindingError IndexedCatalogue :=
  types.foldlM extend {}

/-- The description at the place that is filed for the reference; no answer if that place is
outside the list. -/
def describe? (catalogue : IndexedCatalogue) (type : TypeRef) :
    Option (Except BindingError TypeDescriptor) :=
  match catalogue.index.lookup type.reference with
  | some place => catalogue.types[place]?.map .ok
  | none => some (.error (.catalogue (.unknownType type.reference)))

def listed (catalogue : IndexedCatalogue) : List TypeRef := catalogue.types.map (·.type)

def toCatalogue (catalogue : IndexedCatalogue) : Catalogue := { types := catalogue.types }

end IndexedCatalogue

end NativeBridge
