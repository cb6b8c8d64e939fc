import NativeBridge.Machine.Value
import NativeBridge.Machine.Fault

/-!
# The heap of handles

Object slots hold an index into this list. Releasing the topmost entry takes it off together with
the released entries right below it; releasing any other entry leaves a released null in its place.
An entry that holds null without having been released is never taken off on the way.
-/

namespace NativeBridge

structure HeapEntry where
  value : Value
  released : Bool := false
  deriving DecidableEq, Repr, Inhabited

structure Heap where
  entries : List HeapEntry := []
  deriving DecidableEq, Repr, Inhabited

namespace Heap

def size (heap : Heap) : Nat := heap.entries.length

def isEmpty (heap : Heap) : Bool := heap.entries.isEmpty

def values (heap : Heap) : List Value := heap.entries.map (·.value)

def push (heap : Heap) (value : Value) : Nat × Heap :=
  (heap.size, { entries := heap.entries ++ [{ value }] })

def get (heap : Heap) (index : Nat) : Except Fault Value :=
  match heap.entries[index]? with
  | some entry => .ok entry.value
  | none => .error (.invalidObject index)

/-- Replaces the value of an entry, which is live again from then on. -/
def set (heap : Heap) (index : Nat) (value : Value) : Except Fault Heap :=
  if index < heap.size then .ok { entries := heap.entries.set index { value } }
  else .error (.invalidObject index)

def trim : List HeapEntry → List HeapEntry
  | [] => []
  | entry :: rest =>
      match trim rest with
      | [] => if entry.released then [] else [entry]
      | kept => entry :: kept

def release (heap : Heap) (index : Nat) : Heap :=
  if index + 1 = heap.size then { entries := trim heap.entries.dropLast }
  else if index < heap.size then
    { entries := heap.entries.set index { value := .null, released := true } }
  else heap

end Heap

end NativeBridge
