import NativeBridge.Machine.Objects

/-!
# Runtime types and their statics

A runtime type belongs to the interpreter or to native code, and its statics are cells of that side.
-/

namespace NativeBridge

inductive Flavor where
  | script
  | native
  deriving DecidableEq, Repr, Inhabited

def Flavor.name : Flavor → String
  | .script => "Script"
  | .native => "Native"

structure RuntimeType where
  name : String
  flavor : Flavor
  statics : List Value := []
  deriving DecidableEq, Repr, Inhabited

structure TypeTable where
  types : List RuntimeType := []
  deriving DecidableEq, Repr, Inhabited

namespace TypeTable

def size (table : TypeTable) : Nat := table.types.length

def isEmpty (table : TypeTable) : Bool := table.types.isEmpty

def register (table : TypeTable) (name : String) (flavor : Flavor) (staticCount : Nat) :
    Nat × TypeTable :=
  let entry : RuntimeType := { name, flavor, statics := List.replicate staticCount .null }
  (table.size, { types := table.types ++ [entry] })

def get (table : TypeTable) (typeId : Nat) : Except Fault RuntimeType :=
  match table.types[typeId]? with
  | some entry => .ok entry
  | none => .error (.unknownType typeId)

def static (table : TypeTable) (typeId index : Nat) : Except Fault Value := do
  let entry ← table.get typeId
  match entry.statics[index]? with
  | some value => return value
  | none => throw (.invalidField entry.name index)

def storedIn (objects : Objects) (flavor : Flavor) (value : Value) : Value :=
  match flavor with
  | .script => objects.unwrapAdapter value
  | .native => objects.wrapAdapter value

def setStatic (table : TypeTable) (objects : Objects) (typeId index : Nat) (value : Value) :
    Except Fault TypeTable := do
  let entry ← table.get typeId
  if index < entry.statics.length then
    let statics := entry.statics.set index (storedIn objects entry.flavor value)
    return { types := table.types.set typeId { entry with statics } }
  else throw (.invalidField entry.name index)

def values (table : TypeTable) : List Value := table.types.flatMap (·.statics)

end TypeTable

end NativeBridge
