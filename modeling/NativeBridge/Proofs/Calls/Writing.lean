import NativeBridge.Proofs.Calls.Run
import NativeBridge.Proofs.Machine.NumericCodec
import NativeBridge.Proofs.Results

/-!
# The writing phase

* `run_store`: what a store can do, and that one that fails changes nothing.
* `writeBack_keeps`: whatever every single store keeps, a run of write-backs keeps too, whether it
  succeeds or fails.
* `run_finish`: how a result gets onto the stack.
-/

namespace NativeBridge

namespace Machine

/-- What a store that succeeds leaves behind. -/
inductive Stored (kind : Kind) (value : Value) (before : Machine) : Location → Machine → Prop where
  | number {index : StackPtr} {slot : Slot} : kind.isNumeric = true →
      kind.encode? value = some slot → index < before.stack.capacity →
      Stored kind value before (.slot index)
        { before with stack := { slots := before.stack.slots.set index slot } }
  | entry {index : StackPtr} {slot : Slot} : kind.isNumeric = false →
      before.stack.get index = .ok slot → slot.tag = .objectReference →
      slot.index < before.heap.size →
      Stored kind value before (.slot index)
        { before with heap :=
            { entries := before.heap.entries.set slot.index
                { value := before.objects.unwrapAdapter value } } }
  | fresh {index : StackPtr} {slot : Slot} : kind.isNumeric = false →
      before.stack.get index = .ok slot →
      ¬ (slot.tag = .objectReference ∧ slot.index < before.heap.size) →
      Stored kind value before (.slot index)
        { before with
          heap := (before.heap.push (before.objects.unwrapAdapter value)).2
          stack := { slots :=
            before.stack.slots.set index (.object (.ofNat before.heap.size)) } }
  | field {object field : Nat} {id : ObjectId} {objects : Objects} :
      before.heap.get object = .ok (.object id) →
      before.objects.setField id field value = .ok objects →
      Stored kind value before (.field object field) { before with objects }
  | static {typeId field : Nat} {types : TypeTable} :
      before.types.setStatic before.objects typeId field value = .ok types →
      Stored kind value before (.static typeId field) { before with types }

end Machine

theorem EvalStack.set_inside {stack : EvalStack} {index : StackPtr}
    (inside : index < stack.capacity) (slot : Slot) :
    stack.set index slot = .ok { slots := stack.slots.set index slot } := if_pos inside

theorem EvalStack.set_outside {stack : EvalStack} {index : StackPtr}
    (outside : ¬ index < stack.capacity) (slot : Slot) :
    stack.set index slot = .error (.invalidReference index) := if_neg outside

theorem EvalStack.inside_of_get {stack : EvalStack} {index : StackPtr} {slot : Slot}
    (found : stack.get index = .ok slot) : index < stack.capacity :=
  (List.getElem?_eq_some_iff.mp (get_eq_ok_iff.mp found)).1

namespace Machine

theorem run_storeObject (machine : Machine) (index : StackPtr) (kind : Kind) (value : Value)
    (object : kind.isNumeric = false) :
    (∃ after, Stored kind value machine (.slot index) after ∧
      machine.run (storeObject index value) = (.ok (), after)) ∨
    ∃ fault, machine.run (storeObject index value) = (.error fault, machine) := by
  simp only [storeObject, run_bind, run_get, run_lift]
  cases found : machine.stack.get index with
  | error fault => exact .inr ⟨fault, rfl⟩
  | ok slot =>
      simp only
      by_cases owns : slot.tag = .objectReference ∧ slot.index < machine.heap.size
      · refine .inl ⟨_, .entry object found owns.1 owns.2, ?_⟩
        rw [if_pos owns, run_update]
        simp only [Heap.set, if_pos owns.2]
        rfl
      · refine .inl ⟨_, .fresh object found owns, ?_⟩
        simp only [if_neg owns, run_bind, run_pushHeap, run_setSlot,
          EvalStack.set_inside (EvalStack.inside_of_get found)]

theorem run_store (machine : Machine) (location : Location) (kind : Kind) (value : Value) :
    (∃ after, Stored kind value machine location after ∧
      machine.run (store location kind value) = (.ok (), after)) ∨
    ∃ fault, machine.run (store location kind value) = (.error fault, machine) := by
  cases location with
  | slot index =>
      simp only [store]
      cases numeric : kind.isNumeric with
      | false =>
          simp only [Bool.false_eq_true, if_false]
          exact run_storeObject machine index kind value numeric
      | true =>
          simp only [if_true, run_bind, run_get, run_lift]
          cases encoded : machine.objects.encode kind value with
          | error fault => exact .inr ⟨fault, rfl⟩
          | ok slot =>
              simp only [run_setSlot]
              by_cases inside : index < machine.stack.capacity
              · refine .inl ⟨_, .number numeric (Objects.encode_eq_ok_iff.mp encoded) inside, ?_⟩
                rw [EvalStack.set_inside inside]
              · refine .inr ⟨.invalidReference index, ?_⟩
                rw [EvalStack.set_outside inside]
  | field object field =>
      rw [store]
      rcases run_update_cases machine _ with ⟨after, changed, ran⟩ | failed
      · refine .inl ⟨after, ?_, ran⟩
        obtain ⟨owner, found, changed⟩ := bind_eq_ok.mp changed
        cases owner with
        | object id =>
            obtain ⟨objects, written, same⟩ := bind_eq_ok.mp changed
            rw [← pure_eq_ok.mp same]
            exact .field found written
        | _ => cases changed
      · exact .inr failed
  | static typeId field =>
      rw [store]
      rcases run_update_cases machine _ with ⟨after, changed, ran⟩ | failed
      · refine .inl ⟨after, ?_, ran⟩
        obtain ⟨types, written, same⟩ := bind_eq_ok.mp changed
        rw [← pure_eq_ok.mp same]
        exact .static written
      · exact .inr failed

end Machine

/-! ## Write-backs -/

namespace Plan

theorem run_writeBack_cons (before : Machine) (top : StackPtr) (args held : List Value)
    (step : WriteBack) (rest : List WriteBack) :
    (∃ location stored, before.stack.resolve (top - step.offset) = .ok location ∧
      Machine.Stored step.kind (args.getD step.index .null) before location stored ∧
      before.run (writeBack top args held (step :: rest)) =
        (stored.collect held).run (writeBack top args held rest)) ∨
    ∃ fault, before.run (writeBack top args held (step :: rest)) = (.error fault, before) := by
  rw [writeBack, Machine.run_bind, Machine.run_lift]
  cases below : top.minus step.offset with
  | error fault => exact .inr ⟨fault, rfl⟩
  | ok index =>
      obtain ⟨-, rfl⟩ := StackPtr.minus_ok below
      simp only
      rw [Machine.run_bind, run_locate]
      cases located : before.stack.locate true (top - step.offset) with
      | error fault => exact .inr ⟨fault, rfl⟩
      | ok location =>
          simp only
          rw [Machine.run_bind]
          rcases Machine.run_store before location step.kind (args.getD step.index .null) with
            ⟨stored, wrote, took⟩ | ⟨fault, stops⟩
          · rw [took]
            exact .inl ⟨location, stored, located, wrote, rfl⟩
          · rw [stops]
            exact .inr ⟨fault, rfl⟩

theorem writeBack_keeps (kept : Machine → Prop) {top : StackPtr} {args held : List Value}
    {steps : List WriteBack} {before after : Machine} {result : Except Fault Unit}
    (collects : ∀ machine, kept machine → kept (machine.collect held))
    (stores : ∀ machine stored location, ∀ step ∈ steps, kept machine →
      machine.stack.resolve (top - step.offset) = .ok location →
      Machine.Stored step.kind (args.getD step.index .null) machine location stored → kept stored)
    (start : kept before)
    (ran : before.run (writeBack top args held steps) = (result, after)) : kept after := by
  induction steps generalizing before with
  | nil =>
      obtain ⟨-, rfl⟩ := Prod.mk.inj ran
      exact start
  | cons step rest ih =>
      rcases run_writeBack_cons before top args held step rest with
        ⟨location, stored, located, wrote, continues⟩ | ⟨fault, stops⟩
      · rw [continues] at ran
        refine ih ?_ (collects stored ?_) ran
        · intro machine next location other member
          exact stores machine next location other (List.mem_cons_of_mem _ member)
        · exact stores before stored location step List.mem_cons_self start located wrote
      · rw [stops] at ran
        obtain ⟨-, rfl⟩ := Prod.mk.inj ran
        exact start

/-! ## Results -/

inductive Finished (ret : StackPtr) (value : Value) (before : Machine) :
    ReturnStep → StackPtr → Machine → Prop where
  | void : Finished ret value before .void ret before
  | value {kind : Kind} {slot : Slot} : kind.encode? value = some slot →
      ret < before.stack.capacity →
      Finished ret value before (.value kind) (ret + 1)
        { before with stack := { slots := before.stack.slots.set ret slot } }
  | object {unwrap : Bool} : ret < before.stack.capacity →
      Finished ret value before (.object unwrap) (ret + 1)
        { before with
          heap := (before.heap.push
            (if unwrap then before.objects.unwrapAdapter value else value)).2
          stack := { slots := before.stack.slots.set ret (.object (.ofNat before.heap.size)) } }

theorem run_finish (before : Machine) (ret : StackPtr) (value : Value) (step : ReturnStep) :
    (∃ top after, Finished ret value before step top after ∧
      before.run (finish ret value step) = (.ok top, after)) ∨
    ∃ fault heap, before.run (finish ret value step) = (.error fault, { before with heap }) := by
  cases step with
  | void => exact .inl ⟨ret, before, .void, rfl⟩
  | value kind =>
      simp only [finish, Machine.pushValue, Machine.run_bind, Machine.run_get, Machine.run_lift]
      cases encoded : before.objects.encode kind value with
      | error fault => exact .inr ⟨fault, before.heap, rfl⟩
      | ok slot =>
          simp only [Machine.pushSlot, Machine.run_bind, Machine.run_setSlot]
          by_cases inside : ret < before.stack.capacity
          · rw [EvalStack.set_inside inside]
            exact .inl ⟨_, _, .value (Objects.encode_eq_ok_iff.mp encoded) inside, rfl⟩
          · rw [EvalStack.set_outside inside]
            exact .inr ⟨_, before.heap, rfl⟩
  | object unwrap =>
      simp only [finish, Machine.pushObject, Machine.run_bind, Machine.run_get,
        Machine.run_pushHeap, Machine.pushSlot, Machine.run_setSlot]
      by_cases inside : ret < before.stack.capacity
      · rw [EvalStack.set_inside inside]
        exact .inl ⟨_, _, .object inside, rfl⟩
      · rw [EvalStack.set_outside inside]
        exact .inr ⟨_, _, rfl⟩

def conclude (plan : Plan) (top ret : StackPtr) (args held : List Value) (result : Value) :
    MachineM StackPtr := do
  writeBack top args held plan.writeBacks
  finish ret result plan.ret

theorem conclude_cases {plan : Plan} {top ret : StackPtr} {args held : List Value} {value : Value}
    {before after : Machine} {result : Except Fault StackPtr}
    (ran : before.run (plan.conclude top ret args held value) = (result, after)) :
    ∃ written middle, before.run (writeBack top args held plan.writeBacks) = (written, middle) ∧
      ((∃ top, result = .ok top ∧ Finished ret value middle plan.ret top after) ∨
        ∃ fault heap, result = .error fault ∧ after = { middle with heap }) := by
  rw [conclude, Machine.run_bind] at ran
  cases wrote : before.run (writeBack top args held plan.writeBacks) with
  | mk written middle =>
      refine ⟨written, middle, rfl, ?_⟩
      rw [wrote] at ran
      cases written with
      | error fault =>
          obtain ⟨rfl, rfl⟩ := Prod.mk.inj ran
          exact .inr ⟨fault, middle.heap, rfl, rfl⟩
      | ok done =>
          simp only at ran
          rcases run_finish middle ret value plan.ret with
            ⟨top, finished, pushed, took⟩ | ⟨fault, heap, stops⟩
          · obtain ⟨rfl, rfl⟩ := Prod.mk.inj (took ▸ ran)
            exact .inl ⟨top, rfl, pushed⟩
          · obtain ⟨rfl, rfl⟩ := Prod.mk.inj (stops ▸ ran)
            exact .inr ⟨fault, heap, rfl, rfl⟩

theorem conclude_ok {plan : Plan} {top newTop ret : StackPtr} {args held : List Value}
    {value : Value} {before after : Machine}
    (ran : before.run (plan.conclude top ret args held value) = (.ok newTop, after)) :
    ∃ middle, before.run (writeBack top args held plan.writeBacks) = (.ok (), middle) ∧
      Finished ret value middle plan.ret newTop after := by
  obtain ⟨written, middle, wrote, ⟨top, same, finished⟩ | ⟨fault, heap, failed, -⟩⟩ :=
    conclude_cases ran
  · cases same
    cases written with
    | ok done => exact ⟨middle, wrote, finished⟩
    | error fault =>
        rw [conclude, Machine.run_bind, wrote] at ran
        cases ran
  · cases failed

theorem entered_of_conclude {plan : Plan} {top ret : StackPtr} {args held : List Value}
    {value : Value} {before after : Machine} {result : Except Fault StackPtr}
    (ran : before.run (plan.conclude top ret args held value) = (result, after)) :
    after.entered = before.entered := by
  obtain ⟨written, middle, wrote, ends⟩ := conclude_cases ran
  have wrote : middle.entered = before.entered := by
    refine writeBack_keeps (fun machine => machine.entered = before.entered)
      (fun machine same => same) ?_ rfl wrote
    intro machine stored location step member same located change
    cases change <;> exact same
  rcases ends with ⟨top, -, pushed⟩ | ⟨fault, heap, -, rfl⟩
  · generalize plan.ret = step at pushed
    cases pushed <;> exact wrote
  · exact wrote

end Plan

end NativeBridge
