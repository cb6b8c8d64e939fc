import NativeBridge.Machine.Slot
import NativeBridge.Machine.Fault

/-!
# The evaluation stack

A fixed number of slots. The stack does not know its own top: the interpreter keeps a stack pointer,
the index of the first free slot, and hands it to every call.
-/

namespace NativeBridge

abbrev StackPtr := Nat

def StackPtr.minus (top : StackPtr) (offset : Nat) : Except Fault StackPtr :=
  if offset ≤ top then .ok (top - offset) else .error (.stackUnderflow offset top)

def StackPtr.plus (top : StackPtr) (offset : Nat) : StackPtr := top + offset

inductive Location where
  | slot (index : StackPtr)
  | field (object field : Nat)
  | static (typeId field : Nat)
  deriving DecidableEq, Repr, Inhabited

structure EvalStack where
  slots : List Slot := []
  deriving DecidableEq, Repr, Inhabited

namespace EvalStack

def ofCapacity (capacity : Nat) : EvalStack := { slots := List.replicate capacity {} }

def capacity (stack : EvalStack) : Nat := stack.slots.length

def get (stack : EvalStack) (index : StackPtr) : Except Fault Slot :=
  match stack.slots[index]? with
  | some slot => .ok slot
  | none => .error (.invalidReference index)

def set (stack : EvalStack) (index : StackPtr) (slot : Slot) : Except Fault EvalStack :=
  if index < stack.capacity then .ok { slots := stack.slots.set index slot }
  else .error (.invalidReference index)

/-- Follows the reference in a slot by one step. A slot that holds no reference is its own
location, and so is a slot behind a reference, whatever it holds. -/
def resolve (stack : EvalStack) (index : StackPtr) : Except Fault Location := do
  let slot ← stack.get index
  match slot.tag with
  | .stackSlotReference =>
      let _ ← stack.get slot.index
      return .slot slot.index
  | .fieldReference => return .field slot.index slot.field
  | .staticFieldReference => return .static slot.typeId slot.field
  | _ => return .slot index

def trimmed (stack : EvalStack) : List Slot :=
  (stack.slots.reverse.dropWhile (· == {})).reverse

end EvalStack

end NativeBridge
