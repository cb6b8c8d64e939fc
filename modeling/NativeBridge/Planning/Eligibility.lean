import NativeBridge.Catalogue.Descriptor

/-!
# Eligible methods

Which methods of a type get a trampoline. A method that gets none is skipped for the first reason
that applies; the eligible ones are numbered in order of declaration.
-/

namespace NativeBridge

inductive SkipReason where
  | notPublic
  | generic
  | eventAccessor
  | obsolete
  | obsoleteProperty
  deriving DecidableEq, Repr, Inhabited

namespace SkipReason

def name : SkipReason → String
  | .notPublic => "NotPublic"
  | .generic => "Generic"
  | .eventAccessor => "EventAccessor"
  | .obsolete => "Obsolete"
  | .obsoleteProperty => "ObsoleteProperty"

def text : SkipReason → String
  | .notPublic => "not public"
  | .generic => "generic method"
  | .eventAccessor => "event accessor"
  | .obsolete => "obsolete"
  | .obsoleteProperty => "obsolete property"

end SkipReason

namespace TypeDescriptor

def accessorReason? (descriptor : TypeDescriptor) (method : Method) : Option SkipReason :=
  match method.specialParts? with
  | some ("add", _) | some ("remove", _) => some .eventAccessor
  | some ("get", property) | some ("set", property) =>
      if (descriptor.property? property).any (·.obsolete) then some .obsoleteProperty else none
  | _ => none

/-- The first reason to skip a method; none if it is eligible. -/
def skipReason? (descriptor : TypeDescriptor) (method : Method) : Option SkipReason :=
  if method.visibility ≠ .everyone then some .notPublic
  else if method.genericParams > 0 then some .generic
  else match descriptor.accessorReason? method with
    | some reason => some reason
    | none => if method.obsolete then some .obsolete else none

def eligible (descriptor : TypeDescriptor) : List (Method × Nat) :=
  (descriptor.methods.filter fun method => (descriptor.skipReason? method).isNone).zipIdx

def skipped (descriptor : TypeDescriptor) : List (Method × SkipReason) :=
  descriptor.methods.filterMap fun method => (descriptor.skipReason? method).map (method, ·)

end TypeDescriptor

end NativeBridge
