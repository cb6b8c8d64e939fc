/-!
# Slots of the evaluation stack

A slot is a tag, a raw 64-bit word and a secondary 32-bit integer. The tag says how the word is
read: as a number, as the index of a heap handle, or as a reference to another slot, to a field of
an object or to a static of a type. A slot stores all three parts as they are given; nothing checks
that they fit together.
-/

namespace NativeBridge

inductive Tag where
  | integer
  | long
  | float
  | double
  | objectReference
  | stackSlotReference
  | fieldReference
  | staticFieldReference
  deriving DecidableEq, Repr, Inhabited

namespace Tag

def all : List Tag :=
  [.integer, .long, .float, .double, .objectReference, .stackSlotReference, .fieldReference,
    .staticFieldReference]

def name : Tag → String
  | .integer => "Integer"
  | .long => "Long"
  | .float => "Float"
  | .double => "Double"
  | .objectReference => "ObjectReference"
  | .stackSlotReference => "StackSlotReference"
  | .fieldReference => "FieldReference"
  | .staticFieldReference => "StaticFieldReference"

def isReference : Tag → Bool
  | .stackSlotReference | .fieldReference | .staticFieldReference => true
  | _ => false

end Tag

structure Slot where
  tag : Tag := .integer
  word : UInt64 := 0
  low : Int32 := 0
  deriving DecidableEq, Repr, Inhabited

namespace Slot

/-! ## Building slots -/

def integer (n : Int32) : Slot := { tag := .integer, word := n.toUInt32.toUInt64 }

def long (n : Int64) : Slot := { tag := .long, word := n.toUInt64 }

def float (bits : UInt32) : Slot := { tag := .float, word := bits.toUInt64 }

def double (bits : UInt64) : Slot := { tag := .double, word := bits }

def object (index : UInt64) : Slot := { tag := .objectReference, word := index }

def stackReference (target : UInt64) : Slot := { tag := .stackSlotReference, word := target }

/-- A reference to a field of the object behind a heap entry. Only the low 32 bits of the ordinal
are kept. -/
def fieldReference (object field : UInt64) : Slot :=
  { tag := .fieldReference, word := object, low := field.toUInt32.toInt32 }

def staticFieldReference (typeId : UInt32) (field : UInt64) : Slot :=
  { tag := .staticFieldReference, word := typeId.toUInt64, low := field.toUInt32.toInt32 }

/-! ## Reading slots -/

def intBits (slot : Slot) : Int32 := slot.word.toUInt32.toInt32

def longBits (slot : Slot) : Int64 := slot.word.toInt64

def floatBits (slot : Slot) : UInt32 := slot.word.toUInt32

def doubleBits (slot : Slot) : UInt64 := slot.word

def index (slot : Slot) : Nat := slot.word.toNat

def typeId (slot : Slot) : Nat := slot.word.toUInt32.toNat

def field (slot : Slot) : Nat := slot.low.toInt64.toUInt64.toNat

end Slot

end NativeBridge
