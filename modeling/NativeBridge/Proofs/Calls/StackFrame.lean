import NativeBridge.Proofs.Calls.Exits

/-!
# The stack frame of a call

Which slots a call may write. A write-back resolves its slot anew, on a stack that earlier
write-backs have changed already, but what they wrote is never a reference.

* `Framed`: some slots were written, none of them with a reference.
* `Built.resolve_referred`: on such a stack a parameter still resolves to its own slot or to the
  one that it referred to at first.
* `execute_frame`: a call writes no other slot, and the slot of the result.
-/

namespace NativeBridge

/-! ## Written slots -/

def Framed (written : StackPtr → Prop) (before after : EvalStack) : Prop :=
  after.capacity = before.capacity ∧ ∀ index,
    after.slots[index]? = before.slots[index]? ∨
      written index ∧ ∃ slot, after.slots[index]? = some slot ∧ slot.tag.isReference = false

namespace Framed

variable {written : StackPtr → Prop} {before after : EvalStack}

theorem refl (written : StackPtr → Prop) (stack : EvalStack) : Framed written stack stack :=
  ⟨rfl, fun _ => .inl rfl⟩

theorem mono {wider : StackPtr → Prop} (framed : Framed written before after)
    (includes : ∀ index, written index → wider index) : Framed wider before after :=
  ⟨framed.1, fun index => (framed.2 index).imp_right fun new => ⟨includes index new.1, new.2⟩⟩

theorem set (framed : Framed written before after) {index : StackPtr} {slot : Slot}
    (inside : index < after.capacity) (permitted : written index)
    (plain : slot.tag.isReference = false) :
    Framed written before { slots := after.slots.set index slot } := by
  constructor
  · rw [← framed.1]
    exact List.length_set
  · intro other
    by_cases same : index = other
    · subst same
      exact .inr ⟨permitted, slot, List.getElem?_set_self inside, plain⟩
    · simp only [List.getElem?_set_ne same]
      exact framed.2 other

end Framed

theorem Kind.encode?_plain {kind : Kind} {value : Value} {slot : Slot}
    (encoded : kind.encode? value = some slot) : slot.tag.isReference = false := by
  rw [encode?.eq_def] at encoded
  split at encoded <;> cases encoded <;> rfl

theorem EvalStack.resolve_slot {stack : EvalStack} {index target : StackPtr}
    (resolved : stack.resolve index = .ok (.slot target)) :
    ∃ slot, stack.slots[index]? = some slot ∧
      (slot.tag = .stackSlotReference ∧ target = slot.index ∨
        slot.tag.isReference = false ∧ target = index) := by
  obtain ⟨slot, found, resolved⟩ := bind_eq_ok.mp resolved
  refine ⟨slot, get_eq_ok_iff.mp found, ?_⟩
  cases tag : slot.tag with
  | stackSlotReference =>
      simp only [tag] at resolved
      obtain ⟨behind, -, resolved⟩ := bind_eq_ok.mp resolved
      cases resolved
      exact .inl ⟨rfl, rfl⟩
  | fieldReference | staticFieldReference =>
      simp only [tag] at resolved
      cases resolved
  | _ =>
      simp only [tag] at resolved
      cases resolved
      exact .inr ⟨rfl, rfl⟩

theorem Machine.Stored.framed {kind : Kind} {value : Value} {machine after : Machine}
    {location : Location} {written : StackPtr → Prop} {before : EvalStack}
    (stored : Stored kind value machine location after)
    (framed : Framed written before machine.stack)
    (permitted : ∀ index, location = .slot index → written index) :
    Framed written before after.stack := by
  cases stored with
  | number numeric encoded inside =>
      exact framed.set inside (permitted _ rfl) (Kind.encode?_plain encoded)
  | fresh object found unowned =>
      exact framed.set (EvalStack.inside_of_get found) (permitted _ rfl) rfl
  | entry | field | static => exact framed

namespace Plan

/-! ## Slots of parameters passed by reference -/

/-- A slot that a parameter passed by reference has in the window, or that it refers to. -/
inductive Referred (method : Method) (stack : EvalStack) (top : StackPtr) : StackPtr → Prop where
  | own {index : Nat} {param : Parameter} : method.params[index]? = some param →
      param.byRef = true → Referred method stack top (top - method.params.length + index)
  | target {index : Nat} {param : Parameter} {slot : Slot} : method.params[index]? = some param →
      param.byRef = true → stack.slots[top - method.params.length + index]? = some slot →
      slot.tag = .stackSlotReference → Referred method stack top slot.index

theorem Built.resolve_referred {declaring : TypeRef} {method : Method} {plan : Plan}
    (built : plan.Built declaring method) {top target : StackPtr} {before now : EvalStack}
    (fits : method.params.length ≤ top) (framed : Framed (Referred method before top) before now)
    {step : WriteBack} (member : step ∈ plan.writeBacks)
    (resolved : now.resolve (top - step.offset) = .ok (.slot target)) :
    Referred method before top target := by
  obtain ⟨param, declared, byRef, -, offset⟩ := built.mem_writeBacks_iff.mp member
  obtain ⟨inside, -⟩ := List.getElem?_eq_some_iff.mp declared
  rw [offset, StackPtr.sub_place inside fits] at resolved
  obtain ⟨slot, found, ⟨reference, rfl⟩ | ⟨-, rfl⟩⟩ := EvalStack.resolve_slot resolved
  -- A slot that holds a reference now was not written yet, so it held the same one at first.
  · rcases framed.2 (top - method.params.length + step.index) with
      same | ⟨-, fresh, wrote, plain⟩
    · exact .target declared byRef (same ▸ found) reference
    · obtain rfl : slot = fresh := Option.some.inj (found.symm.trans wrote)
      rw [reference] at plain
      cases plain
  · exact .own declared byRef

theorem Built.writeBack_framed {declaring : TypeRef} {method : Method} {plan : Plan}
    (built : plan.Built declaring method) {top : StackPtr} {args held : List Value}
    {steps : List WriteBack} {start : EvalStack} {before after : Machine}
    {result : Except Fault Unit} (fits : method.params.length ≤ top) (same : before.stack = start)
    (listed : ∀ step ∈ steps, step ∈ plan.writeBacks)
    (ran : before.run (writeBack top args held steps) = (result, after)) :
    Framed (Referred method start top) start after.stack := by
  refine writeBack_keeps (fun machine => Framed (Referred method start top) start machine.stack)
    (fun machine framed => framed) ?_ (same ▸ Framed.refl _ _) ran
  intro machine stored location step member framed located wrote
  refine wrote.framed framed ?_
  rintro index rfl
  exact built.resolve_referred fits framed (listed step member) located

/-! ## The frame -/

theorem Finished.framed {ret top : StackPtr} {value : Value} {before after : Machine}
    {step : ReturnStep} {written : StackPtr → Prop} {start : EvalStack}
    (finished : Finished ret value before step top after)
    (framed : Framed written start before.stack) :
    Framed (fun index => written index ∨ index = ret ∧ step ≠ .void) start after.stack := by
  have framed := framed.mono fun index (old : written index) =>
    (Or.inl old : written index ∨ index = ret ∧ step ≠ .void)
  cases finished with
  | void => exact framed
  | value encoded inside =>
      exact framed.set inside (.inr ⟨rfl, ReturnStep.noConfusion⟩) (Kind.encode?_plain encoded)
  | object inside => exact framed.set inside (.inr ⟨rfl, ReturnStep.noConfusion⟩) rfl

theorem conclude_framed {declaring : TypeRef} {method : Method} {plan : Plan}
    (built : plan.Built declaring method) {top ret : StackPtr} {args held : List Value}
    {value : Value} {start : EvalStack} {before after : Machine}
    {result : Except Fault StackPtr} (fits : method.params.length ≤ top)
    (same : before.stack = start)
    (ran : before.run (plan.conclude top ret args held value) = (result, after)) :
    Framed (fun index => Referred method start top index ∨
      index = ret ∧ plan.ret ≠ .void ∧ ∃ newTop, result = .ok newTop) start after.stack := by
  obtain ⟨written, middle, wrote, ends⟩ := conclude_cases ran
  have framed := built.writeBack_framed fits same (fun _ listed => listed) wrote
  rcases ends with ⟨newTop, rfl, finished⟩ | ⟨fault, heap, -, rfl⟩
  · refine (finished.framed framed).mono ?_
    rintro index (referred | ⟨rfl, returns⟩)
    · exact .inl referred
    · exact .inr ⟨rfl, returns, newTop, rfl⟩
  · exact framed.mono fun index => .inl

/-- A call changes slots that parameters passed by reference hold or refer to at first, and, if it
succeeds with a result, the slot of the result. -/
theorem execute_frame {declaring : TypeRef} {method : Method} {ordinal : Nat} {plan : Plan}
    {body : NativeBody} {top : StackPtr} {before after : Machine}
    {result : Except Fault StackPtr} (built : build declaring method ordinal = .ok plan)
    (ran : before.run (plan.execute body top) = (result, after)) :
    after.stack.capacity = before.stack.capacity ∧
      (∀ index, after.stack.slots[index]? ≠ before.stack.slots[index]? →
        Referred method before.stack top index ∨
          index = top - plan.window ∧ plan.ret ≠ .void ∧ ∃ newTop, result = .ok newTop) ∧
      ∀ (start middle : Machine) (args held : List Value) (first rest : List WriteBack)
        (step : WriteBack) (target : StackPtr),
        plan.window ≤ top → start.stack = before.stack →
        plan.writeBacks = first ++ step :: rest →
        start.run (writeBack top args held first) = (.ok (), middle) →
        middle.stack.resolve (top - step.offset) = .ok (.slot target) →
        Referred method before.stack top target := by
  have shape := build_built built
  have framed : Framed (fun index => Referred method before.stack top index ∨
      index = top - plan.window ∧ plan.ret ≠ .void ∧ ∃ newTop, result = .ok newTop)
      before.stack after.stack := by
    cases execute_ends ran with
    | underflow short => exact .refl _ _
    | unread fits stops =>
        obtain ⟨reached, read, others, values, split, taken, refused⟩ := stops
        rw [taken.stack_eq]
        exact .refl _ _
    | refused enters replied answer =>
        obtain ⟨held, rfl⟩ := enters.met_eq
        exact .refl _ _
    | answered enters replied answer concluded =>
        have fits := Nat.le_trans shape.params_le_window enters.fits
        obtain ⟨held, rfl⟩ := enters.met_eq
        refine conclude_framed shape fits ?_ concluded
        rfl
  refine ⟨framed.1, ?_, ?_⟩
  · intro index differs
    rcases framed.2 index with same | ⟨written, -⟩
    · exact absurd same differs
    · exact written
  · intro start middle args held first rest step target fits same split ran resolved
    have fits := Nat.le_trans shape.params_le_window fits
    have member (step : WriteBack) (listed : step ∈ first) : step ∈ plan.writeBacks :=
      split ▸ List.mem_append_left _ listed
    refine shape.resolve_referred fits (shape.writeBack_framed fits same member ran) ?_ resolved
    rw [split]
    exact List.mem_append_right _ List.mem_cons_self

theorem move_writes_referred : ∃ after, build figure move 0 = .ok movePlan ∧
    (figures (.integer 5)).run (movePlan.execute answerNine 4) = (.ok 2, after) ∧
    after.stack.slots[0]? ≠ (figures (.integer 5)).stack.slots[0]? ∧
    Referred move (figures (.integer 5)).stack 4 0 := by
  have ran : (figures (.integer 5)).run (movePlan.execute answerNine 4) =
      (.ok 2, ((figures (.integer 5)).run (movePlan.execute answerNine 4)).2) := rfl
  have differs : ((figures (.integer 5)).run (movePlan.execute answerNine 4)).2.stack.slots[0]? ≠
      (figures (.integer 5)).stack.slots[0]? := by decide
  obtain ⟨-, frame, -⟩ := execute_frame build_move ran
  rcases frame 0 differs with referred | ⟨lowest, -⟩
  · exact ⟨_, build_move, ran, differs, referred⟩
  · cases lowest

end Plan

end NativeBridge
