import NativeBridge.Proofs.Calls.Reading
import NativeBridge.Proofs.Calls.Writing
import NativeBridge.Proofs.Machine.Contents

/-!
# Runs that agree

Two machines agree when they differ at most in which objects have ended, and two runs agree when both
fail, or both answer the same on machines that agree.

* `Agree.bind`: sequences agree step by step.
* `agree_store`, `agree_finish`: stores and results that need no adapter agree on machines that
  agree.
* `Reads.unique`, `Reads.not_fails`: what reads take is determined by the machine.
-/

namespace NativeBridge

/-- The machines have the same cells; some objects may have ended in one and not in the other. -/
structure Machine.Same (machine other : Machine) : Prop where
  stack : machine.stack = other.stack
  heap : machine.heap = other.heap
  types : machine.types = other.types
  contents : machine.objects.contents = other.objects.contents

inductive Agree {α : Type} : Except Fault α × Machine → Except Fault α × Machine → Prop where
  | ok {a : α} {machine other : Machine} : machine.Same other →
      Agree (.ok a, machine) (.ok a, other)
  | error {fault failure : Fault} {machine other : Machine} :
      Agree (.error fault, machine) (.error failure, other)

variable {α β : Type} {machine other : Machine}

namespace Machine

theorem Same.refl (machine : Machine) : machine.Same machine := ⟨rfl, rfl, rfl, rfl⟩

theorem Same.collect (same : machine.Same other) (held : List Value) :
    (machine.collect held).Same other :=
  ⟨same.stack, same.heap, same.types, (Objects.collect_contents _ _).trans same.contents⟩

end Machine

theorem Agree.bind {action action' : MachineM α} {next next' : α → MachineM β}
    (first : Agree (machine.run action) (other.run action'))
    (rest : ∀ (a : α) (middle middle' : Machine), middle.Same middle' →
      Agree (middle.run (next a)) (middle'.run (next' a))) :
    Agree (machine.run (action >>= next)) (other.run (action' >>= next')) := by
  rw [Machine.run_bind, Machine.run_bind]
  generalize machine.run action = left at first
  generalize other.run action' = right at first
  cases first with
  | ok same => exact rest _ _ _ same
  | error => exact .error

theorem Agree.of_failed {left : Except Fault α × Machine} {fault failure : Fault}
    (agree : Agree left (.error fault, machine)) : Agree left (.error failure, other) := by
  cases agree with
  | error => exact .error

theorem agree_lift (same : machine.Same other) (result : Except Fault α) :
    Agree (machine.run (liftM result)) (other.run (liftM result)) := by
  rw [Machine.run_lift, Machine.run_lift]
  cases result with
  | ok a => exact .ok same
  | error fault => exact .error

theorem agree_locate (same : machine.Same other) (resolve : Bool) (index : StackPtr) :
    Agree (machine.run (Plan.locate resolve index)) (other.run (Plan.locate resolve index)) := by
  rw [Plan.run_locate, Plan.run_locate, same.stack]
  cases other.stack.locate resolve index with
  | ok location => exact .ok same
  | error fault => exact .error

/-! ## Stores -/

theorem agree_setSlot (same : machine.Same other) (index : StackPtr) (slot : Slot) :
    Agree (machine.run (Machine.setSlot index slot)) (other.run (Machine.setSlot index slot)) := by
  rw [Machine.run_setSlot, Machine.run_setSlot, same.stack]
  cases other.stack.set index slot with
  | ok stack => exact .ok ⟨rfl, same.heap, same.types, same.contents⟩
  | error fault => exact .error

theorem agree_pushHeap (same : machine.Same other) (value : Value) :
    Agree (machine.run (Machine.pushHeap value)) (other.run (Machine.pushHeap value)) := by
  rw [Machine.run_pushHeap, Machine.run_pushHeap, same.heap]
  exact .ok ⟨same.stack, rfl, same.types, same.contents⟩

theorem unwrapAdapter_plain (objects : Objects) {value : Value} (plain : value.objectId? = none) :
    objects.unwrapAdapter value = value :=
  objects.storedIn_plain .script plain

theorem agree_storeObject (same : machine.Same other) (index : StackPtr) {value : Value}
    (plain : value.objectId? = none) :
    Agree (machine.run (Machine.storeObject index value))
      (other.run (Machine.storeObject index value)) := by
  simp only [Machine.storeObject, Machine.run_bind, Machine.run_get, Machine.run_lift,
    unwrapAdapter_plain _ plain, same.stack, same.heap]
  cases other.stack.get index with
  | error fault => exact .error
  | ok slot =>
      simp only
      split
      · simp only [Machine.run_update, same.heap]
        cases other.heap.set slot.index value with
        | error fault => exact .error
        | ok heap => exact .ok ⟨same.stack, rfl, same.types, same.contents⟩
      · refine Agree.bind (agree_pushHeap same value) ?_
        intro entry middle middle' same
        exact agree_setSlot same index _

theorem agree_store (same : machine.Same other) (location : Location) (kind : Kind) {value : Value}
    (plain : value.objectId? = none) :
    Agree (machine.run (Machine.store location kind value))
      (other.run (Machine.store location kind value)) := by
  cases location with
  | slot index =>
      rw [Machine.store]
      cases numeric : kind.isNumeric with
      | false =>
          rw [if_neg Bool.false_ne_true]
          exact agree_storeObject same index plain
      | true =>
          rw [if_pos rfl]
          simp only [Machine.run_bind, Machine.run_get, Machine.run_lift, Objects.encode]
          cases kind.encode? value with
          | none => exact .error
          | some slot => exact agree_setSlot same index slot
  | field object field =>
      simp only [Machine.store, Machine.run_update, same.heap]
      cases other.heap.get object with
      | error fault => exact .error
      | ok owner =>
          cases owner with
          | object id =>
              simp only [bind, Except.bind, pure, Except.pure]
              rcases Objects.setField_of_contents same.contents plain with
                ⟨after, final, left, right, contents⟩ | ⟨fault, left, right⟩
              · rw [left, right]
                exact .ok ⟨same.stack, rfl, same.types, contents⟩
              · rw [left, right]
                exact .error
          | _ => exact .error
  | static typeId field =>
      have stored : machine.types.setStatic machine.objects typeId field value =
          other.types.setStatic other.objects typeId field value := by
        simp only [same.types, TypeTable.setStatic, Objects.storedIn_plain _ _ plain]
      simp only [Machine.store, Machine.run_update, stored]
      cases other.types.setStatic other.objects typeId field value with
      | error fault => exact .error
      | ok types => exact .ok ⟨same.stack, same.heap, rfl, same.contents⟩

/-! ## Results -/

theorem agree_pushSlot (same : machine.Same other) (top : StackPtr) (slot : Slot) :
    Agree (machine.run (Machine.pushSlot top slot)) (other.run (Machine.pushSlot top slot)) := by
  refine Agree.bind (agree_setSlot same top slot) ?_
  intro done middle middle' same
  exact .ok same

theorem agree_finish (same : machine.Same other) (ret : StackPtr) {value : Value}
    {step : ReturnStep} (plain : step = .object true → value.objectId? = none) :
    Agree (machine.run (Plan.finish ret value step)) (other.run (Plan.finish ret value step)) := by
  cases step with
  | void => exact .ok same
  | value kind =>
      simp only [Plan.finish, Machine.pushValue, Machine.run_bind, Machine.run_get,
        Machine.run_lift, Objects.encode]
      cases kind.encode? value with
      | none => exact .error
      | some slot => exact agree_pushSlot same ret slot
  | object unwrap =>
      simp only [Plan.finish, Machine.pushObject]
      rw [Machine.run_bind, Machine.run_bind]
      simp only [Machine.run_get]
      have pushed : (if unwrap then machine.objects.unwrapAdapter value else value) =
          if unwrap then other.objects.unwrapAdapter value else value := by
        cases unwrap with
        | false => rfl
        | true =>
            rw [unwrapAdapter_plain _ (plain rfl), unwrapAdapter_plain _ (plain rfl)]
      rw [pushed]
      refine Agree.bind (agree_pushHeap same _) ?_
      intro entry middle middle' same
      exact agree_pushSlot same ret _

/-! ## Reads -/

theorem Reads.unique {top : StackPtr} {after final : Machine} {reads : List SlotRead}
    {values others : List Value} (taken : Reads top machine reads values after)
    (again : Reads top machine reads others final) : values = others ∧ after = final := by
  induction taken generalizing others with
  | nil =>
      cases again
      exact ⟨rfl, rfl⟩
  | cons value rest ih =>
      cases again with
      | cons same again =>
          obtain rfl := Except.ok.inj (value.symm.trans same)
          obtain ⟨rfl, rfl⟩ := ih again
          exact ⟨rfl, rfl⟩

theorem Reads.not_fails {top : StackPtr} {after stopped : Machine} {reads : List SlotRead}
    {values : List Value} {fault : Fault} (taken : Reads top machine reads values after) :
    ¬ ReadFails top machine reads fault stopped := by
  rintro ⟨first, read, rest, others, rfl, before, refused⟩
  induction before generalizing values with
  | nil =>
      cases taken with
      | cons value _ => cases value.symm.trans refused
  | cons value _ ih =>
      cases taken with
      | cons same taken =>
          obtain rfl := Except.ok.inj (value.symm.trans same)
          exact ih taken refused

end NativeBridge
