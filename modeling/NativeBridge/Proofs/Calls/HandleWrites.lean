import NativeBridge.Proofs.Calls.HeapEffect
import NativeBridge.Proofs.Calls.StackFrame
import NativeBridge.Proofs.Calls.WriteBack
import NativeBridge.Proofs.Machine.Holders

/-!
# Write-backs and the holders of handles

Write-backs change the live handles and the slots that hold them. What they do below the window is
judged on the stack before the first of them.

* `Written`: the holders below the window after some write-backs, and that no reference is new.
* `Tidy`: on a settled stack, each handle that an object got is held below the window.
* `Built.writeBack_written`: a run of write-backs keeps both.
* `Built.writeBack_replaces`: a slot to which a number is written loses the handle that it held.
-/

namespace NativeBridge

namespace EvalStack

theorem owned?_set {stack : EvalStack} {index : StackPtr} (inside : index < stack.capacity)
    (slot : Slot) : owned? { slots := stack.slots.set index slot } =
      Function.update stack.owned? index
        (if slot.tag = .objectReference then some slot.index else none) := by
  funext other
  rw [Function.update_apply]
  by_cases here : other = index
  · subst here
    rw [if_pos rfl, owned?, List.getElem?_set_self inside]
  · rw [if_neg here, owned?, List.getElem?_set_ne (Ne.symm here)]
    rfl

theorem owned?_set_object {stack : EvalStack} {index : StackPtr} (inside : index < stack.capacity)
    {handle : Nat} (small : handle < UInt64.size) :
    owned? { slots := stack.slots.set index (.object (.ofNat handle)) } =
      Function.update stack.owned? index (some handle) := by
  rw [owned?_set inside, Slot.index_object small]
  rfl

theorem owned?_eq_some_iff {stack : EvalStack} {index : StackPtr} {handle : Nat} :
    stack.owned? index = some handle ↔ ∃ slot, stack.slots[index]? = some slot ∧
      slot.tag = .objectReference ∧ slot.index = handle := by
  rw [owned?]
  cases stack.slots[index]? with
  | none => simp
  | some slot => simp

theorem target?_eq_some_iff {stack : EvalStack} {index target : StackPtr} :
    stack.target? index = some target ↔ ∃ slot, stack.slots[index]? = some slot ∧
      slot.tag = .stackSlotReference ∧ slot.index = target := by
  rw [target?]
  cases stack.slots[index]? with
  | none => simp
  | some slot => simp

theorem target?_of_set {stack : EvalStack} {index other target : StackPtr} {slot : Slot}
    (plain : slot.tag.isReference = false)
    (refers : target? { slots := stack.slots.set index slot } other = some target) :
    stack.target? other = some target := by
  by_cases here : other = index
  · subst here
    obtain ⟨found, there, reference, -⟩ := target?_eq_some_iff.mp refers
    obtain ⟨inside, same⟩ := List.getElem?_eq_some_iff.mp there
    rw [List.getElem_set_self] at same
    rw [same, reference] at plain
    cases plain
  · rwa [target?_set_ne stack here] at refers

end EvalStack

theorem Kind.encode?_unowned {kind : Kind} {value : Value} {slot : Slot}
    (encoded : kind.encode? value = some slot) : slot.tag ≠ .objectReference := by
  rw [encode?.eq_def] at encoded
  intro owner
  split at encoded <;> cases encoded <;> cases owner

theorem Heap.live_none_of_unowned {heap : Heap} {stack : EvalStack} {index : StackPtr} {slot : Slot}
    (found : stack.get index = .ok slot)
    (unowned : ¬ (slot.tag = .objectReference ∧ slot.index < heap.size)) {handle : Nat}
    (holds : stack.owned? index = some handle) : heap.live handle = none := by
  obtain ⟨slot', found', owner, rfl⟩ := EvalStack.owned?_eq_some_iff.mp holds
  obtain rfl : slot = slot' :=
    Option.some.inj ((EvalStack.get_eq_ok_iff.mp found).symm.trans found')
  by_contra bound
  exact unowned ⟨owner, Heap.Sound.inside_of_live bound⟩

theorem Machine.Stored.size_le {machine after : Machine} {kind : Kind} {value : Value}
    {location : Location} (stored : Machine.Stored kind value machine location after) :
    machine.heap.size ≤ after.heap.size := by
  cases stored with
  | entry object found owner inside => exact Nat.le_of_eq List.length_set.symm
  | fresh object found unowned =>
      exact Nat.le_of_lt (Heap.size_lt_of_push (Nat.le_refl _))
  | number | field | static => exact Nat.le_refl _

theorem Machine.Stored.live_kept {machine after : Machine} {kind : Kind} {value : Value}
    {location : Location} (stored : Machine.Stored kind value machine location after) {handle : Nat}
    (bound : machine.heap.live handle ≠ none) : after.heap.live handle ≠ none := by
  cases stored with
  | entry object found owner inside =>
      rw [Heap.live_set (if_pos inside), Function.update_apply]
      split
      · exact nofun
      · exact bound
  | fresh object found unowned =>
      rwa [Heap.live_push_of_live bound]
  | number | field | static => exact bound

theorem Machine.Stored.unheld {machine after : Machine} {kind : Kind} {value : Value}
    {location : Location} (stored : Machine.Stored kind value machine location after) {handle : Nat}
    (bound : machine.heap.live handle ≠ none) (room : after.heap.size ≤ UInt64.size)
    {index : StackPtr} (unheld : machine.stack.owned? index ≠ some handle) :
    after.stack.owned? index ≠ some handle := by
  cases stored with
  | number numeric encoded inside =>
      rw [EvalStack.owned?_set inside, if_neg (Kind.encode?_unowned encoded), Function.update_apply]
      split
      · exact nofun
      · exact unheld
  | fresh object found unowned =>
      have small := Heap.size_lt_of_push room
      rw [EvalStack.owned?_set_object (EvalStack.inside_of_get found) small, Function.update_apply]
      split
      · intro same
        exact Nat.ne_of_gt (Heap.Sound.inside_of_live bound) (Option.some.inj same)
      · exact unheld
  | entry | field | static => exact unheld

namespace Plan

def WritesAt (method : Method) (stack : EvalStack) (top : StackPtr) (numeric : Bool)
    (target : StackPtr) : Prop :=
  ∃ index param kind, RefersTo method stack top index target ∧
    method.params[index]? = some param ∧ param.type.kind? = some kind ∧ kind.isNumeric = numeric

/-- Objects passed by reference are in slots below the window, to which no number is written, or in
fields. -/
structure Settled (method : Method) (stack : EvalStack) (top base : StackPtr) : Prop where
  object : ∀ index param, method.params[index]? = some param → param.byRef = true →
    param.type.kind? = some .object →
    ∃ slot, stack.slots[top - method.params.length + index]? = some slot ∧
      slot.tag.isReference = true ∧ (slot.tag = .stackSlotReference → slot.index < base) ∧
      ¬ WritesAt method stack top true (top - method.params.length + index)
  apart : ∀ target, WritesAt method stack top true target → ¬ WritesAt method stack top false target

structure Written (method : Method) (top base : StackPtr) (start machine : Machine) : Prop where
  reached : machine.heap.Reached machine.heap.live
  refers : ∀ index target, machine.stack.target? index = some target →
    start.stack.target? index = some target
  holding : Holding base (WritesAt method start.stack top true)
    (WritesAt method start.stack top false) start.heap.live start.stack.owned?
    machine.heap.live machine.stack.owned?

structure Tidy (method : Method) (top base : StackPtr) (start machine : Machine) : Prop where
  covered : Covered base start.heap.live start.stack.owned? machine.heap.live machine.stack.owned?
  object : ∀ index param, method.params[index]? = some param → param.byRef = true →
    param.type.kind? = some .object →
    machine.stack.slots[top - method.params.length + index]? =
      start.stack.slots[top - method.params.length + index]?

section Writes

variable {declaring : TypeRef} {method : Method} {plan : Plan} {top : StackPtr}
  {start machine after : Machine} {step : WriteBack} {location : Location} {value : Value}

theorem Built.write_target (built : plan.Built declaring method) (fits : plan.window ≤ top)
    (written : Written method top (top - plan.window) start machine)
    (member : step ∈ plan.writeBacks) {target : StackPtr}
    (located : machine.stack.resolve (top - step.offset) = .ok (.slot target)) :
    target = top - step.offset ∨ WritesAt method start.stack top step.kind.isNumeric target := by
  obtain ⟨slot, found, ⟨reference, rfl⟩ | ⟨-, rfl⟩⟩ := EvalStack.resolve_slot located
  · have now := EvalStack.target?_eq_some_iff.mpr ⟨slot, found, reference, rfl⟩
    have refers := written.refers _ _ now
    obtain ⟨param, declared, -, known, -⟩ := built.mem_writeBacks_iff.mp member
    exact .inr ⟨step.index, param, step.kind,
      (built.refersTo_iff fits).mpr ⟨step, member, rfl, refers⟩, declared, known, rfl⟩
  · exact .inl rfl

theorem Built.write_below (built : plan.Built declaring method) (fits : plan.window ≤ top)
    (written : Written method top (top - plan.window) start machine)
    (member : step ∈ plan.writeBacks) {target : StackPtr}
    (located : machine.stack.resolve (top - step.offset) = .ok (.slot target))
    (below : target < top - plan.window) :
    WritesAt method start.stack top step.kind.isNumeric target := by
  rcases built.write_target fits written member located with own | refers
  · have above := built.base_le_writeBack top member
    rw [own] at below
    exact absurd below (Nat.not_lt.mpr above)
  · exact refers

theorem Built.written_stored (built : plan.Built declaring method) (fits : plan.window ≤ top)
    (member : step ∈ plan.writeBacks)
    (written : Written method top (top - plan.window) start machine)
    (located : machine.stack.resolve (top - step.offset) = .ok location)
    (stored : Machine.Stored step.kind value machine location after)
    (room : after.heap.size ≤ UInt64.size) :
    Written method top (top - plan.window) start after := by
  cases stored with
  | @number target slot numeric encoded inside =>
      refine ⟨written.reached, ?_, ?_⟩
      · intro index other refers
        have plain := Kind.encode?_plain encoded
        exact written.refers index other (EvalStack.target?_of_set plain refers)
      · have changed := EvalStack.owned?_set inside slot
        rw [if_neg (Kind.encode?_unowned encoded)] at changed
        simp only [changed]
        apply written.holding.number
        intro below
        rw [← numeric]
        exact built.write_below fits written member located below
  | @entry target slot object found owner inside =>
      have changed : machine.heap.set slot.index (machine.objects.unwrapAdapter value) =
        .ok _ := if_pos inside
      refine ⟨written.reached.set changed, written.refers, ?_⟩
      rw [Heap.live_set changed]
      exact written.holding.entry _ _
  | @fresh target slot object found unowned =>
      have small := Heap.size_lt_of_push room
      have inside := EvalStack.inside_of_get found
      refine ⟨written.reached.push _, ?_, ?_⟩
      · intro index other refers
        exact written.refers index other (EvalStack.target?_of_set rfl refers)
      · simp only [EvalStack.owned?_set_object inside small, Heap.live_push]
        apply written.holding.fresh machine.heap.live_size
        · intro other holds
          exact Heap.live_none_of_unowned found unowned holds
        · intro below
          rw [← object]
          exact built.write_below fits written member located below
  | field => exact ⟨written.reached, written.refers, written.holding⟩
  | static => exact ⟨written.reached, written.refers, written.holding⟩

theorem Built.own_slot (built : plan.Built declaring method) (fits : plan.window ≤ top)
    (member : step ∈ plan.writeBacks) :
    top - step.offset = top - method.params.length + step.index := by
  obtain ⟨param, declared, -, -, offset⟩ := built.mem_writeBacks_iff.mp member
  obtain ⟨inside, -⟩ := List.getElem?_eq_some_iff.mp declared
  rw [offset, StackPtr.sub_place inside (Nat.le_trans built.params_le_window fits)]

theorem Built.object_below (built : plan.Built declaring method) (fits : plan.window ≤ top)
    (settled : Settled method start.stack top (top - plan.window))
    (member : step ∈ plan.writeBacks)
    (tidy : Tidy method top (top - plan.window) start machine)
    (object : step.kind.isNumeric = false) {target : StackPtr}
    (located : machine.stack.resolve (top - step.offset) = .ok (.slot target)) :
    target < top - plan.window := by
  obtain ⟨param, declared, byRef, known, -⟩ := built.mem_writeBacks_iff.mp member
  rw [Kind.eq_object_of_not_numeric object] at known
  obtain ⟨slot, there, reference, lower, -⟩ := settled.object _ param declared byRef known
  rw [← tidy.object _ param declared byRef known, ← built.own_slot fits member] at there
  obtain ⟨slot', found, stands⟩ := EvalStack.resolve_slot located
  obtain rfl : slot = slot' := Option.some.inj (there.symm.trans found)
  rcases stands with ⟨name, rfl⟩ | ⟨plain, -⟩
  · exact lower name
  · rw [reference] at plain
    cases plain

theorem Built.number_apart (built : plan.Built declaring method) (fits : plan.window ≤ top)
    (settled : Settled method start.stack top (top - plan.window))
    (member : step ∈ plan.writeBacks)
    (written : Written method top (top - plan.window) start machine)
    (numeric : step.kind.isNumeric = true) {target : StackPtr}
    (located : machine.stack.resolve (top - step.offset) = .ok (.slot target)) {index : Nat}
    {param : Parameter} (declared : method.params[index]? = some param)
    (byRef : param.byRef = true) (known : param.type.kind? = some .object) :
    target ≠ top - method.params.length + index := by
  rintro rfl
  obtain ⟨slot, -, -, -, unwritten⟩ := settled.object index param declared byRef known
  rcases built.write_target fits written member located with own | refers
  · rw [built.own_slot fits member] at own
    obtain rfl := Nat.add_left_cancel own
    obtain ⟨other, declared', -, known', -⟩ := built.mem_writeBacks_iff.mp member
    rw [declared] at declared'
    cases declared'
    rw [← Option.some.inj (known.symm.trans known')] at numeric
    cases numeric
  · rw [numeric] at refers
    exact unwritten refers

theorem Built.tidy_stored (built : plan.Built declaring method) (fits : plan.window ≤ top)
    (settled : Settled method start.stack top (top - plan.window))
    (member : step ∈ plan.writeBacks)
    (written : Written method top (top - plan.window) start machine)
    (tidy : Tidy method top (top - plan.window) start machine)
    (located : machine.stack.resolve (top - step.offset) = .ok location)
    (stored : Machine.Stored step.kind value machine location after)
    (room : after.heap.size ≤ UInt64.size) : Tidy method top (top - plan.window) start after := by
  cases stored with
  | @number target slot numeric encoded inside =>
      constructor
      · have changed := EvalStack.owned?_set inside slot
        rw [if_neg (Kind.encode?_unowned encoded)] at changed
        simp only [changed]
        apply written.holding.covered_number tidy.covered
        intro below
        apply settled.apart
        rw [← numeric]
        exact built.write_below fits written member located below
      · intro index param declared byRef known
        have apart := built.number_apart fits settled member written numeric located declared byRef
          known
        exact (List.getElem?_set_ne apart).trans (tidy.object index param declared byRef known)
  | @entry target slot object found owner inside =>
      have below := built.object_below fits settled member tidy object located
      have changed : machine.heap.set slot.index (machine.objects.unwrapAdapter value) =
        .ok _ := if_pos inside
      refine ⟨?_, tidy.object⟩
      rw [Heap.live_set changed]
      apply tidy.covered.entry below
      exact EvalStack.owned?_eq_some_iff.mpr ⟨slot, EvalStack.get_eq_ok_iff.mp found, owner, rfl⟩
  | @fresh target slot object found unowned =>
      have below := built.object_below fits settled member tidy object located
      have small := Heap.size_lt_of_push room
      constructor
      · simp only [EvalStack.owned?_set_object (EvalStack.inside_of_get found) small,
          Heap.live_push]
        apply tidy.covered.fresh below
        intro other holds
        exact Heap.live_none_of_unowned found unowned holds
      · intro index param declared byRef known
        obtain ⟨inside, -⟩ := List.getElem?_eq_some_iff.mp declared
        have above : top - plan.window ≤ top - method.params.length + index :=
          Nat.le_trans (Nat.sub_le_sub_left built.params_le_window top) (Nat.le_add_right _ _)
        have apart := Nat.ne_of_lt (Nat.lt_of_lt_of_le below above)
        exact (List.getElem?_set_ne apart).trans (tidy.object index param declared byRef known)
  | field => exact ⟨tidy.covered, tidy.object⟩
  | static => exact ⟨tidy.covered, tidy.object⟩

/-! ## Runs of write-backs -/

theorem writeBack_size_le {args held : List Value} {steps : List WriteBack}
    {result : Except Fault Unit}
    (ran : machine.run (writeBack top args held steps) = (result, after)) :
    machine.heap.size ≤ after.heap.size := by
  refine writeBack_keeps (fun now => machine.heap.size ≤ now.heap.size) (fun _ grows => grows) ?_
    (Nat.le_refl _) ran
  intro now stored location step member grows located wrote
  exact Nat.le_trans grows wrote.size_le

theorem Written.initial (reached : start.heap.Reached start.heap.live) {base : StackPtr}
    (unique : ∀ handle, start.heap.live handle ≠ none → ∀ first < base, ∀ second < base,
      start.stack.owned? first = some handle → start.stack.owned? second = some handle →
      first = second) : Written method top base start start :=
  ⟨reached, fun _ _ refers => refers, .start unique⟩

theorem Tidy.initial {base : StackPtr} : Tidy method top base start start :=
  ⟨fun _ bound => .inl bound, fun _ _ _ _ _ => rfl⟩

theorem Built.writeBack_written (built : plan.Built declaring method) (fits : plan.window ≤ top)
    {args held : List Value} {steps : List WriteBack} {result : Except Fault Unit}
    (listed : ∀ step ∈ steps, step ∈ plan.writeBacks)
    (written : Written method top (top - plan.window) start machine)
    (ran : machine.run (writeBack top args held steps) = (result, after))
    (room : after.heap.size ≤ UInt64.size) :
    Written method top (top - plan.window) start after ∧
      (Settled method start.stack top (top - plan.window) →
        Tidy method top (top - plan.window) start machine →
        Tidy method top (top - plan.window) start after) := by
  have kept := writeBack_keeps (fun now => now.heap.size ≤ UInt64.size →
      Written method top (top - plan.window) start now ∧
        (Settled method start.stack top (top - plan.window) →
          Tidy method top (top - plan.window) start machine →
          Tidy method top (top - plan.window) start now))
    (fun now kept room =>
      ⟨⟨(kept room).1.reached, (kept room).1.refers, (kept room).1.holding⟩, fun settled tidy =>
        ⟨((kept room).2 settled tidy).covered, ((kept room).2 settled tidy).object⟩⟩)
    ?_ (fun _ => ⟨written, fun _ tidy => tidy⟩) ran
  · exact kept room
  · intro now stored location step member kept located wrote room
    obtain ⟨written, tidy⟩ := kept (Nat.le_trans wrote.size_le room)
    refine ⟨built.written_stored fits (listed step member) written located wrote room, ?_⟩
    intro settled tidy₀
    exact built.tidy_stored fits settled (listed step member) written (tidy settled tidy₀) located
      wrote room

theorem writeBack_unheld {args held : List Value} {steps : List WriteBack}
    {result : Except Fault Unit}
    (ran : machine.run (writeBack top args held steps) = (result, after))
    (room : after.heap.size ≤ UInt64.size) {handle : Nat}
    (bound : machine.heap.live handle ≠ none) {index : StackPtr}
    (unheld : machine.stack.owned? index ≠ some handle) :
    after.stack.owned? index ≠ some handle := by
  have kept := writeBack_keeps (fun now => now.heap.size ≤ UInt64.size →
      now.heap.live handle ≠ none ∧ now.stack.owned? index ≠ some handle)
    (fun _ kept room => kept room) ?_ (fun _ => ⟨bound, unheld⟩) ran
  · exact (kept room).2
  · intro now stored location step member kept located wrote room
    obtain ⟨bound, unheld⟩ := kept (Nat.le_trans wrote.size_le room)
    exact ⟨wrote.live_kept bound, wrote.unheld bound room unheld⟩

theorem Built.target_stored (built : plan.Built declaring method) (fits : plan.window ≤ top)
    (written : Written method top (top - plan.window) start machine)
    (below : ∀ index target, RefersTo method start.stack top index target →
      target < top - plan.window)
    (member : step ∈ plan.writeBacks)
    (located : machine.stack.resolve (top - step.offset) = .ok location)
    (stored : Machine.Stored step.kind value machine location after)
    {own target : StackPtr} (above : top - plan.window ≤ own)
    (refers : machine.stack.target? own = some target) :
    after.stack.target? own = some target := by
  have apart {other : StackPtr}
      (located : machine.stack.resolve (top - step.offset) = .ok (.slot other)) : own ≠ other := by
    rintro rfl
    obtain ⟨slot, found, ⟨reference, rfl⟩ | ⟨plain, rfl⟩⟩ := EvalStack.resolve_slot located
    · have now := EvalStack.target?_eq_some_iff.mpr ⟨slot, found, reference, rfl⟩
      have first := written.refers _ _ now
      have lower := below _ _ ((built.refersTo_iff fits).mpr ⟨step, member, rfl, first⟩)
      exact absurd lower (Nat.not_lt.mpr above)
    -- A write-back to its own slot finds no reference there, but this slot still holds one.
    · obtain ⟨slot', found', reference, -⟩ := EvalStack.target?_eq_some_iff.mp refers
      obtain rfl : slot = slot' := Option.some.inj (found.symm.trans found')
      rw [reference] at plain
      cases plain
  cases stored with
  | number | fresh =>
      rw [EvalStack.target?_set_ne _ (apart located)]
      exact refers
  | entry | field | static => exact refers

theorem Built.writeBack_replaces (built : plan.Built declaring method) (fits : plan.window ≤ top)
    (below : ∀ index target, RefersTo method start.stack top index target →
      target < top - plan.window)
    {args held : List Value} {steps : List WriteBack}
    (listed : ∀ step ∈ steps, step ∈ plan.writeBacks)
    (written : Written method top (top - plan.window) start machine) (member : step ∈ steps)
    (numeric : step.kind.isNumeric = true) {target : StackPtr}
    (refers : machine.stack.target? (top - step.offset) = some target)
    (ran : machine.run (writeBack top args held steps) = (.ok (), after))
    (room : after.heap.size ≤ UInt64.size) {handle : Nat}
    (bound : machine.heap.live handle ≠ none) : after.stack.owned? target ≠ some handle := by
  induction steps generalizing machine with
  | nil => cases member
  | cons first rest ih =>
      rcases run_writeBack_cons machine top args held first rest with
        ⟨location, stored, located, wrote, continues⟩ | ⟨fault, stops⟩
      · rw [continues] at ran
        have small := Nat.le_trans (writeBack_size_le ran) room
        have inPlan := listed first List.mem_cons_self
        rcases List.mem_cons.mp member with rfl | later
        · apply writeBack_unheld ran room (wrote.live_kept bound)
          obtain rfl := EvalStack.resolve_of_target refers located
          cases wrote with
          | number _ encoded inside =>
              refine ne_of_eq_of_ne (congrFun (EvalStack.owned?_set inside _) target) ?_
              rw [Function.update_self, if_neg (Kind.encode?_unowned encoded)]
              exact nofun
          | entry object => exact absurd numeric (by simp [object])
          | fresh object => exact absurd numeric (by simp [object])
        -- The parameter still refers to the slot when its turn comes.
        · have next := built.written_stored fits inPlan written located wrote small
          have refers := built.target_stored fits written below inPlan located wrote
            (built.base_le_writeBack top (listed step member)) refers
          have next : Written method top (top - plan.window) start (stored.collect held) :=
            ⟨next.reached, next.refers, next.holding⟩
          exact ih (fun step member => listed step (List.mem_cons_of_mem first member)) next later
            refers ran (wrote.live_kept bound)
      · rw [stops] at ran
        cases ran

end Writes

end Plan

end NativeBridge
