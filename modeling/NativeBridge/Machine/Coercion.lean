import NativeBridge.Machine.Objects

/-!
# Coercion of objects

An object that is read for a declared type is checked against that type. A script instance read for
a native type is replaced by its adapter.
-/

namespace NativeBridge

inductive CoercionMode where
  | any
  | script
  | string
  | classType
  | struct
  deriving DecidableEq, Repr, Inhabited

def CoercionMode.all : List CoercionMode := [.any, .script, .string, .classType, .struct]

def CoercionMode.name : CoercionMode → String
  | .any => "Any"
  | .script => "Script"
  | .string => "String"
  | .classType => "Class"
  | .struct => "Struct"

structure Coercion where
  target : String
  mode : CoercionMode
  deriving DecidableEq, Repr, Inhabited

namespace Coercion

def mismatch (coercion : Coercion) (objects : Objects) (value : Value) : Except Fault Value :=
  .error (.typeMismatch coercion.target (objects.describe value))

def adapt (coercion : Coercion) (objects : Objects) (id : ObjectId) : Except Fault Value :=
  match objects.get id with
  | .native self =>
      if self.isInstanceOf coercion.target then .ok (.object id)
      else coercion.mismatch objects (.object id)
  | .script self =>
      match self.adapter with
      | some adapter =>
          if objects.isInstanceOf adapter coercion.target then .ok (.object adapter)
          else coercion.mismatch objects (.object id)
      | none => coercion.mismatch objects (.object id)

/-- Checks a value against the target and turns it into what native code takes. -/
def apply (coercion : Coercion) (objects : Objects) (value : Value) : Except Fault Value :=
  match coercion.mode, value with
  | .any, value => .ok value
  | .struct, .null => .error (.nullReference ("value of type " ++ coercion.target))
  | _, .null => .ok .null
  | .script, .object id =>
      match objects.get id with
      | .script _ => .ok (.object id)
      | .native _ => coercion.mismatch objects (.object id)
  | .string, .str text => .ok (.str text)
  | .classType, .object id => coercion.adapt objects id
  | .struct, .object id => coercion.adapt objects id
  | _, value => coercion.mismatch objects value

end Coercion

end NativeBridge
