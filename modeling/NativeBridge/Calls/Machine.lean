import NativeBridge.Machine.Coercion
import NativeBridge.Machine.Heap
import NativeBridge.Machine.EvalStack
import NativeBridge.Machine.Statics
import NativeBridge.Calls.NativeCall

/-!
# The machine and its cells

The machine is everything that a call may read or change: the stack, the heap, the objects and the
statics. It also remembers which native bodies were entered, and with what.

- `load` reads a location as a kind and changes nothing.
- `store` writes a location, and `pushValue` and `pushObject` write a result.
- `free` gives up the heap entry that an object slot owns.

An operation that fails leaves behind the machine as it was when it failed.
-/

namespace NativeBridge

structure Entered where
  call : NativeCall
  objects : Objects
  types : TypeTable
  deriving DecidableEq, Repr, Inhabited

structure Machine where
  stack : EvalStack := {}
  heap : Heap := {}
  objects : Objects := {}
  types : TypeTable := {}
  pinned : List ObjectId := []
  entered : List Entered := []
  deriving DecidableEq, Repr, Inhabited

abbrev MachineM := ExceptT Fault (StateM Machine)

namespace Machine

/-! ## Reading -/

def convert (objects : Objects) (kind : Kind) (coercion : Option Coercion) (value : Value) :
    Except Fault Value :=
  if kind.isNumeric then objects.narrow kind value
  else match coercion with
    | some coercion => coercion.apply objects value
    | none => .ok value

def noFields (objects : Objects) (object field : Nat) : Value → Fault
  | .null => .nullReference
      ("field " ++ toString field ++ " of heap object " ++ toString object)
  | owner => .typeMismatch "object with fields" (objects.describe owner)

def fieldValue (machine : Machine) (object field : Nat) : Except Fault Value := do
  match ← machine.heap.get object with
  | .object id => machine.objects.field id field
  | owner => throw (noFields machine.objects object field owner)

/-- What a slot stands for, before any conversion: its own number, its heap entry, or the cell it
refers to. A reference to another slot has to be resolved first. -/
def slotValue (machine : Machine) (kind : Kind) (slot : Slot) : Except Fault Value :=
  match slot.tag with
  | .objectReference => machine.heap.get slot.index
  | .fieldReference => machine.fieldValue slot.index slot.field
  | .staticFieldReference => machine.types.static slot.typeId slot.field
  | .stackSlotReference => .error (.typeMismatch kind.typeName "unresolved stack reference")
  | _ => .ok ((Kind.boxSlot? slot).getD .null)

/-- Reads a location as a kind. A number that sits in a slot must have the tag of the kind; one that
is stored anywhere else is narrowed. -/
def load (machine : Machine) (location : Location) (kind : Kind) (coercion : Option Coercion) :
    Except Fault Value := do
  match location with
  | .slot index =>
      let slot ← machine.stack.get index
      if kind.isNumeric && (Kind.boxSlot? slot).isSome then kind.decode slot
      else convert machine.objects kind coercion (← machine.slotValue kind slot)
  | .field object field =>
      convert machine.objects kind coercion (← machine.fieldValue object field)
  | .static typeId field =>
      convert machine.objects kind coercion (← machine.types.static typeId field)

/-! ## Writing -/

def update (change : Machine → Except Fault Machine) : MachineM Unit := do
  match change (← get) with
  | .ok after => set after
  | .error fault => throw fault

def setSlot (index : StackPtr) (slot : Slot) : MachineM Unit :=
  update fun machine => return { machine with stack := ← machine.stack.set index slot }

def pushHeap (value : Value) : MachineM Nat :=
  modifyGet fun machine =>
    let (index, heap) := machine.heap.push value
    (index, { machine with heap })

def free (index : StackPtr) : MachineM Unit :=
  update fun machine => do
    let slot ← machine.stack.get index
    if slot.tag = .objectReference then
      return { machine with heap := machine.heap.release slot.index }
    else return machine

/-- Writes an object to a slot. A slot that already owns a heap entry keeps it and the entry changes;
any other slot gets an entry of its own. -/
def storeObject (index : StackPtr) (value : Value) : MachineM Unit := do
  let machine ← get
  let value := machine.objects.unwrapAdapter value
  let current ← machine.stack.get index
  if current.tag = .objectReference ∧ current.index < machine.heap.size then
    update fun machine => return { machine with heap := ← machine.heap.set current.index value }
  else
    let entry ← pushHeap value
    setSlot index (.object (.ofNat entry))

def store (location : Location) (kind : Kind) (value : Value) : MachineM Unit := do
  match location with
  | .slot index =>
      if kind.isNumeric then
        let slot ← (← get).objects.encode kind value
        setSlot index slot
      else storeObject index value
  | .field object field =>
      update fun machine => do
        match ← machine.heap.get object with
        | .object id => return { machine with objects := ← machine.objects.setField id field value }
        | owner => throw (noFields machine.objects object field owner)
  | .static typeId field =>
      update fun machine =>
        return { machine with types := ← machine.types.setStatic machine.objects typeId field value }

def pushSlot (top : StackPtr) (slot : Slot) : MachineM StackPtr := do
  setSlot top slot
  return top.plus 1

def pushValue (top : StackPtr) (kind : Kind) (value : Value) : MachineM StackPtr := do
  let slot ← (← get).objects.encode kind value
  pushSlot top slot

def pushObject (top : StackPtr) (value : Value) (unwrap : Bool) : MachineM StackPtr := do
  let objects := (← get).objects
  let entry ← pushHeap (if unwrap then objects.unwrapAdapter value else value)
  pushSlot top (.object (.ofNat entry))

/-! ## The end of objects -/

def handles (machine : Machine) : List ObjectId :=
  machine.pinned ++ Value.referents machine.heap.values ++ Value.referents machine.types.values

/-- Ends the objects that nothing holds any more, apart from the values in `held`. -/
def collect (held : List Value) (machine : Machine) : Machine :=
  { machine with
    objects := machine.objects.collect (Value.referents held ++ machine.handles) }

end Machine

end NativeBridge
