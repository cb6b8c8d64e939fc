import NativeBridge.Calls.Execute
import NativeBridge.Proofs.Machine.Heap
import NativeBridge.Proofs.Results

/-!
# Runs of actions

An action is run on a machine; it answers a result or a fault, and leaves a machine behind in either
case.

* `run_bind`: a fault stops a run, and what was done before it stays done.
* `run_update`, `run_setSlot`, `run_free`: the single changes, each of which succeeds or leaves the
  machine alone.
-/

namespace NativeBridge

namespace Machine

variable {α β : Type}

def run (machine : Machine) (action : MachineM α) : Except Fault α × Machine :=
  StateT.run (ExceptT.run action) machine

@[simp] theorem run_pure (machine : Machine) (a : α) :
    machine.run (pure a) = (.ok a, machine) := rfl

@[simp] theorem run_get (machine : Machine) : machine.run get = (.ok machine, machine) := rfl

@[simp] theorem run_set (machine after : Machine) :
    machine.run (set after) = (.ok (), after) := rfl

@[simp] theorem run_modify (machine : Machine) (change : Machine → Machine) :
    machine.run (modify change) = (.ok (), change machine) := rfl

@[simp] theorem run_lift (machine : Machine) (result : Except Fault α) :
    machine.run (liftM result) = (result, machine) := rfl

theorem run_bind (machine : Machine) (action : MachineM α) (next : α → MachineM β) :
    machine.run (action >>= next) = match machine.run action with
      | (.ok a, after) => after.run (next a)
      | (.error fault, after) => (.error fault, after) := by
  refine (run_bind_eq action next machine).trans ?_
  rw [run]
  rcases StateT.run (ExceptT.run action) machine with ⟨_ | a, after⟩ <;> rfl

theorem run_map (machine : Machine) (action : MachineM α) (f : α → β) :
    machine.run (f <$> action) = match machine.run action with
      | (.ok a, after) => (.ok (f a), after)
      | (.error fault, after) => (.error fault, after) := by
  rw [map_eq_pure_bind, run_bind]
  rfl

/-! ## Single changes -/

theorem run_update (machine : Machine) (change : Machine → Except Fault Machine) :
    machine.run (update change) = match change machine with
      | .ok after => (.ok (), after)
      | .error fault => (.error fault, machine) := by
  simp only [update, run_bind, run_get]
  cases change machine <;> rfl

theorem run_update_cases (machine : Machine) (change : Machine → Except Fault Machine) :
    (∃ after, change machine = .ok after ∧ machine.run (update change) = (.ok (), after)) ∨
    ∃ fault, machine.run (update change) = (.error fault, machine) := by
  rw [run_update]
  cases change machine with
  | ok after => exact .inl ⟨after, rfl, rfl⟩
  | error fault => exact .inr ⟨fault, rfl⟩

theorem run_setSlot (machine : Machine) (index : StackPtr) (slot : Slot) :
    machine.run (setSlot index slot) = match machine.stack.set index slot with
      | .ok stack => (.ok (), { machine with stack })
      | .error fault => (.error fault, machine) := by
  simp only [setSlot, run_update]
  cases machine.stack.set index slot <;> rfl

theorem run_pushHeap (machine : Machine) (value : Value) :
    machine.run (pushHeap value) =
      (.ok machine.heap.size, { machine with heap := (machine.heap.push value).2 }) := rfl

end Machine

/-! ## Slots and their locations -/

theorem StackPtr.minus_ok {top index : StackPtr} {offset : Nat}
    (below : top.minus offset = .ok index) : offset ≤ top ∧ index = top - offset := by
  rw [minus] at below
  split at below
  · rename_i inside
    exact ⟨inside, (Except.ok.inj below).symm⟩
  · cases below

theorem StackPtr.sub_place {top count index : Nat} (inside : index < count) (fits : count ≤ top) :
    top - (count - index) = top - count + index := by
  omega

def EvalStack.locate (stack : EvalStack) (resolve : Bool) (index : StackPtr) :
    Except Fault Location :=
  if resolve then stack.resolve index else .ok (.slot index)

theorem Plan.run_locate (machine : Machine) (resolve : Bool) (index : StackPtr) :
    machine.run (locate resolve index) = (machine.stack.locate resolve index, machine) := by
  simp only [locate, Machine.run_bind, Machine.run_get, EvalStack.locate]
  cases resolve <;> simp

/-! ## Slots that own an entry -/

def EvalStack.owned? (stack : EvalStack) (index : StackPtr) : Option Nat :=
  match stack.slots[index]? with
  | some slot => if slot.tag = .objectReference then some slot.index else none
  | none => none

theorem EvalStack.get_eq_ok_iff {stack : EvalStack} {index : StackPtr} {slot : Slot} :
    stack.get index = .ok slot ↔ stack.slots[index]? = some slot := by
  rw [get]
  cases stack.slots[index]? with
  | none => simp
  | some found => simp

namespace Machine

def giveUp (machine : Machine) (released : List Nat) : Machine :=
  { machine with heap := machine.heap.releaseAll released }

theorem giveUp_giveUp (machine : Machine) (first rest : List Nat) :
    (machine.giveUp first).giveUp rest = machine.giveUp (first ++ rest) := by
  rw [giveUp, giveUp, giveUp, Heap.releaseAll_append]

theorem run_free {machine : Machine} {index : StackPtr} {slot : Slot}
    (inside : machine.stack.get index = .ok slot) :
    machine.run (free index) =
      (.ok (), machine.giveUp (machine.stack.owned? index).toList) := by
  have found := EvalStack.get_eq_ok_iff.mp inside
  simp only [free, run_update, inside, bind, Except.bind, EvalStack.owned?, found]
  by_cases owner : slot.tag = .objectReference
  · rw [if_pos owner, if_pos owner]
    rfl
  · rw [if_neg owner, if_neg owner]
    rfl

end Machine

end NativeBridge
