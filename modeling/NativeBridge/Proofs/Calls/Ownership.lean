import NativeBridge.Proofs.Calls.HandleWrites

/-!
# Who holds handles after a call

A call starts on a stack on which each live handle has one holder. What it takes over it gives up,
the other slots of its window it leaves behind, and below the window it writes.

* `Finished.unheld`, `Finished.fresh`: a result gets a handle of its own or none.
* `TakenOver`: the machine after the reads of a call.
* `TakenOver.held_or_lost`: after the write-backs each live handle has one holder below the window,
  but for handles that were left in the window and handles that numbers replaced.
* `execute_holders`: who holds the handles that are live after a call, and which have no holder.
-/

namespace NativeBridge

namespace Plan

/-- A handle is in a slot of the window that the call does not take over. -/
def Left (declaring : TypeRef) (method : Method) (stack : EvalStack) (top base : StackPtr)
    (handle : Nat) : Prop :=
  ∃ index, base ≤ index ∧ index < top ∧ ¬ TakesOver declaring method top index ∧
    stack.owned? index = some handle

/-- A handle is in a slot below the window where a number is written back. -/
def Replaced (method : Method) (stack : EvalStack) (top base : StackPtr) (handle : Nat) : Prop :=
  ∃ target < base, WritesAt method stack top true target ∧ stack.owned? target = some handle

/-! ## Results -/

section Results

variable {ret newTop : StackPtr} {value : Value} {before after : Machine} {step : ReturnStep}
  {handle : Nat}

theorem Finished.ret_le (finished : Finished ret value before step newTop after) :
    ret ≤ newTop := by
  cases finished with
  | void => exact Nat.le_refl _
  | value | object => exact Nat.le_succ _

theorem Finished.size_le (finished : Finished ret value before step newTop after) :
    before.heap.size ≤ after.heap.size := by
  cases finished with
  | void | value => exact Nat.le_refl _
  | object =>
      exact Nat.le_of_lt (Heap.size_lt_of_push (Nat.le_refl _))

theorem Finished.unheld (finished : Finished ret value before step newTop after)
    (bound : before.heap.live handle ≠ none) (room : after.heap.size ≤ UInt64.size) :
    ∀ index, ret ≤ index → index < newTop → after.stack.owned? index ≠ some handle := by
  intro index above below
  cases finished with
  | void => exact absurd below (Nat.not_lt.mpr above)
  | value encoded inside =>
      obtain rfl := Nat.le_antisymm above (Nat.le_of_lt_succ below)
      rw [EvalStack.owned?_set inside, Function.update_self, if_neg (Kind.encode?_unowned encoded)]
      exact nofun
  | object inside =>
      obtain rfl := Nat.le_antisymm above (Nat.le_of_lt_succ below)
      have small := Heap.size_lt_of_push room
      rw [EvalStack.owned?_set_object inside small, Function.update_self]
      intro same
      exact Nat.ne_of_gt (Heap.Sound.inside_of_live bound) (Option.some.inj same)

theorem Finished.fresh (finished : Finished ret value before step newTop after)
    (unbound : before.heap.live handle = none) (bound : after.heap.live handle ≠ none)
    (room : after.heap.size ≤ UInt64.size) :
    newTop = ret + 1 ∧ after.stack.owned? ret = some handle := by
  cases finished with
  | void | value => exact absurd unbound bound
  | object inside =>
      refine ⟨rfl, ?_⟩
      have small := Heap.size_lt_of_push room
      have pushed : handle = before.heap.size := by
        by_contra other
        rw [Heap.live_push, Function.update_of_ne other] at bound
        exact bound unbound
      rw [EvalStack.owned?_set_object inside small, Function.update_self, pushed]

theorem Finished.owned?_below (finished : Finished ret value before step newTop after)
    {index : StackPtr} (below : index < ret) :
    after.stack.owned? index = before.stack.owned? index := by
  rw [EvalStack.owned?, finished.below below]
  rfl

theorem Finished.free (finished : Finished ret value before step newTop after)
    (bound : before.heap.live handle ≠ none) (room : after.heap.size ≤ UInt64.size)
    (free : ∀ index < ret, before.stack.owned? index ≠ some handle) :
    ∀ index < newTop, after.stack.owned? index ≠ some handle := by
  intro index inside
  by_cases below : index < ret
  · rw [finished.owned?_below below]
    exact free index below
  · exact finished.unheld bound room index (Nat.le_of_not_lt below) inside

end Results

/-! ## After the reads -/

theorem Built.takesOver_inside {declaring : TypeRef} {method : Method} {plan : Plan}
    (built : plan.Built declaring method) {top index : StackPtr} (fits : plan.window ≤ top)
    (taken : TakesOver declaring method top index) : top - plan.window ≤ index ∧ index < top := by
  cases taken with
  | @param place param declared byValue known =>
      obtain ⟨inside, -⟩ := List.getElem?_eq_some_iff.mp declared
      have room := Nat.le_trans built.params_le_window fits
      constructor
      · exact Nat.le_trans (Nat.sub_le_sub_left built.params_le_window top) (Nat.le_add_right _ _)
      · exact Nat.lt_of_lt_of_eq (Nat.add_lt_add_left inside _) (Nat.sub_add_cancel room)
  | receiver onInstance reference =>
      have window := built.window
      rw [onInstance, if_neg Bool.false_ne_true] at window
      rw [Nat.sub_sub, ← window]
      have positive : 0 < plan.window := window ▸ Nat.succ_pos _
      exact ⟨Nat.le_refl _, Nat.sub_lt (Nat.lt_of_lt_of_le positive fits) positive⟩

structure TakenOver (declaring : TypeRef) (method : Method) (live : LiveMap) (top base : StackPtr)
    (start : Machine) : Prop where
  once : ∀ handle, live handle ≠ none → HeldOnce start.stack.owned? top handle
  base_le : base ≤ top
  window : ∀ index, TakesOver declaring method top index → base ≤ index ∧ index < top
  spared : ∀ handle, start.heap.live handle ≠ none ↔
    live handle ≠ none ∧ ¬ Consumed declaring method start.stack top handle

namespace TakenOver

variable {declaring : TypeRef} {method : Method} {live : LiveMap} {top base : StackPtr}
  {start machine : Machine} {handle : Nat}

theorem unique (taken : TakenOver declaring method live top base start)
    (bound : live handle ≠ none) {first second : StackPtr} (below : first < top)
    (below' : second < top) (holds : start.stack.owned? first = some handle)
    (holds' : start.stack.owned? second = some handle) : first = second :=
  (taken.once handle bound).unique ⟨below, holds⟩ ⟨below', holds'⟩

theorem unique_below (taken : TakenOver declaring method live top base start) :
    ∀ handle, start.heap.live handle ≠ none → ∀ first < base, ∀ second < base,
      start.stack.owned? first = some handle → start.stack.owned? second = some handle →
      first = second := by
  intro handle bound first below second below' holds holds'
  exact taken.unique ((taken.spared handle).mp bound).1 (Nat.lt_of_lt_of_le below taken.base_le)
    (Nat.lt_of_lt_of_le below' taken.base_le) holds holds'

theorem dangling (taken : TakenOver declaring method live top base start)
    (dangles : Dangling start.heap.live start.stack.owned? base handle) :
    Dangling live start.stack.owned? base handle := by
  obtain ⟨gone, index, below, holds⟩ := dangles
  refine ⟨?_, index, below, holds⟩
  by_contra bound
  have consumed : Consumed declaring method start.stack top handle := by
    by_contra spared
    exact (taken.spared handle).mpr ⟨bound, spared⟩ gone
  obtain ⟨other, took, holds'⟩ := consumed
  obtain ⟨above, inside⟩ := taken.window other took
  obtain rfl := taken.unique bound (Nat.lt_of_lt_of_le below taken.base_le) inside holds holds'
  exact absurd below (Nat.not_lt.mpr above)

theorem held_or_lost (taken : TakenOver declaring method live top base start)
    (written : Written method top base start machine)
    (tidy : Settled method start.stack top base → Tidy method top base start machine)
    (tied : ¬ Dangling live start.stack.owned? base handle)
    (bound : machine.heap.live handle ≠ none) :
    HeldOnce machine.stack.owned? base handle ∨
      (∀ index < base, machine.stack.owned? index ≠ some handle) ∧
        (live handle ≠ none ∧
            (Left declaring method start.stack top base handle ∨
              Replaced method start.stack top base handle) ∨
          ¬ Settled method start.stack top base ∧
            (live handle = none ∨ Consumed declaring method start.stack top handle)) := by
  have tied : ¬ Dangling start.heap.live start.stack.owned? base handle := mt taken.dangling tied
  by_cases held : ∃ index < base, machine.stack.owned? index = some handle
  · obtain ⟨index, below, holds⟩ := held
    exact .inl (written.holding.heldOnce tied below holds)
  · refine .inr ⟨fun index below holds => held ⟨index, below, holds⟩, ?_⟩
    -- Either the handle had a holder at first, which lost it, or it is new and never had one.
    by_cases old : start.heap.live handle ≠ none
    · obtain ⟨first, spared⟩ := (taken.spared handle).mp old
      obtain ⟨index, ⟨inside, holds⟩, -⟩ := taken.once handle first
      refine .inl ⟨first, ?_⟩
      by_cases below : index < base
      · by_cases number : WritesAt method start.stack top true index
        · exact .inr ⟨index, below, number, holds⟩
        · have stays := written.holding.stays handle old index below number holds
          exact absurd ⟨index, below, stays⟩ held
      · have above := Nat.le_of_not_lt below
        exact .inl ⟨index, above, inside, fun took => spared ⟨index, took, holds⟩, holds⟩
    · refine .inr ⟨?_, ?_⟩
      · intro settled
        rcases (tidy settled).covered handle bound with still | dangles | holder
        · exact old still
        · exact tied dangles
        · exact held holder
      · by_contra! other
        exact old ((taken.spared handle).mpr other)

theorem left_spared (taken : TakenOver declaring method live top base start)
    (bound : live handle ≠ none) (left : Left declaring method start.stack top base handle) :
    start.heap.live handle ≠ none ∧ ∀ index < base, start.stack.owned? index ≠ some handle := by
  obtain ⟨index, above, inside, spared, holds⟩ := left
  constructor
  · refine (taken.spared handle).mpr ⟨bound, ?_⟩
    rintro ⟨other, took, holds'⟩
    obtain rfl := taken.unique bound inside (taken.window other took).2 holds holds'
    exact spared took
  · intro other below holds'
    obtain rfl := taken.unique bound inside (Nat.lt_of_lt_of_le below taken.base_le) holds holds'
    exact absurd below (Nat.not_lt.mpr above)

theorem replaced_spared (taken : TakenOver declaring method live top base start)
    (bound : live handle ≠ none) {target : StackPtr} (below : target < base)
    (holds : start.stack.owned? target = some handle) :
    start.heap.live handle ≠ none ∧
      ∀ index < base, start.stack.owned? index = some handle → index = target := by
  have inside := Nat.lt_of_lt_of_le below taken.base_le
  constructor
  · refine (taken.spared handle).mpr ⟨bound, ?_⟩
    rintro ⟨other, took, holds'⟩
    obtain ⟨above, inside'⟩ := taken.window other took
    obtain rfl := taken.unique bound inside inside' holds holds'
    exact absurd below (Nat.not_lt.mpr above)
  · intro other lower holds'
    exact taken.unique bound (Nat.lt_of_lt_of_le lower taken.base_le) inside holds' holds

end TakenOver

theorem Built.takenOver {declaring : TypeRef} {method : Method} {plan : Plan}
    (built : plan.Built declaring method) {top : StackPtr} (fits : plan.window ≤ top)
    {before start : Machine} (stack : start.stack = before.stack)
    (heap : start.heap = before.heap.releaseAll (released before.stack top plan.reads))
    (once : ∀ handle, before.heap.live handle ≠ none → HeldOnce before.stack.owned? top handle) :
    TakenOver declaring method before.heap.live top (top - plan.window) start where
  once := stack ▸ once
  base_le := Nat.sub_le _ _
  window _ taken := built.takesOver_inside fits taken
  spared handle := by
    rw [heap, stack, Heap.live_releaseAll, ← built.mem_released_iff fits]
    split
    · rename_i given
      simp [given]
    · rename_i spared
      simp [spared]

theorem Built.replaced_free {declaring : TypeRef} {method : Method} {plan : Plan}
    (built : plan.Built declaring method) {top : StackPtr} (fits : plan.window ≤ top)
    {live : LiveMap} {start middle : Machine} {args held : List Value} {handle : Nat}
    (taken : TakenOver declaring method live top (top - plan.window) start)
    (begun : start.heap.Reached start.heap.live)
    (refer : ∀ index target, RefersTo method start.stack top index target →
      target < top - plan.window)
    (bound : live handle ≠ none)
    (replaced : Replaced method start.stack top (top - plan.window) handle)
    (wrote : start.run (writeBack top args held plan.writeBacks) = (.ok (), middle))
    (written : Written method top (top - plan.window) start middle)
    (room : middle.heap.size ≤ UInt64.size) :
    start.heap.live handle ≠ none ∧
      ∀ index < top - plan.window, middle.stack.owned? index ≠ some handle := by
  obtain ⟨target, lower, ⟨place, param, kind, refers, declared, known, numeric⟩, holds⟩ := replaced
  obtain ⟨spared, only⟩ := taken.replaced_spared bound lower holds
  refine ⟨spared, ?_⟩
  obtain ⟨step, member, rfl, points⟩ := (built.refersTo_iff fits).mp refers
  obtain ⟨other, declared', -, known', -⟩ := built.mem_writeBacks_iff.mp member
  rw [declared] at declared'
  cases declared'
  obtain rfl : kind = step.kind := Option.some.inj (known.symm.trans known')
  have ends := built.writeBack_replaces fits refer (fun _ member => member)
    (Written.initial begun taken.unique_below) member numeric points wrote room spared
  intro index below holds'
  obtain rfl := only index below (written.holding.old handle spared index below holds')
  exact ends holds'

/-- After a call on a stack on which each live handle has one holder, each live handle that was not
held below the window before it was live has one holder or none. Those without are left in the
window by the call, were replaced by numbers, or were made by objects that are not settled. -/
theorem execute_holders {declaring : TypeRef} {method : Method} {ordinal : Nat} {plan : Plan}
    {body : NativeBody} {top newTop : StackPtr} {before after : Machine} {live : LiveMap}
    (built : build declaring method ordinal = .ok plan)
    (reached : before.heap.Reached live)
    (once : ∀ handle, live handle ≠ none → HeldOnce before.stack.owned? top handle)
    (ran : before.run (plan.execute body top) = (.ok newTop, after))
    (room : after.heap.size ≤ UInt64.size) :
    ∃ final, after.heap.Reached final ∧
      (∀ handle, final handle ≠ none →
        ¬ Dangling live before.stack.owned? (top - plan.window) handle →
        HeldOnce after.stack.owned? newTop handle ∨
          (∀ index < newTop, after.stack.owned? index ≠ some handle) ∧
            (live handle ≠ none ∧
                (Left declaring method before.stack top (top - plan.window) handle ∨
                  Replaced method before.stack top (top - plan.window) handle) ∨
              ¬ Settled method before.stack top (top - plan.window) ∧
                (live handle = none ∨ Consumed declaring method before.stack top handle))) ∧
      ∀ handle, live handle ≠ none →
        Left declaring method before.stack top (top - plan.window) handle ∨
          (∀ index target, RefersTo method before.stack top index target →
            target < top - plan.window) ∧
          Replaced method before.stack top (top - plan.window) handle →
        final handle ≠ none ∧ ∀ index < newTop, after.stack.owned? index ≠ some handle := by
  have shape := build_built built
  obtain ⟨entry, value, held, start, middle, fits, -, -, stack, heap, wrote, finished⟩ :=
    execute_succeeds ran
  obtain ⟨-, same⟩ := reached.tracks
  simp only at same
  subst same
  have taken := shape.takenOver fits stack heap once
  have begun : start.heap.Reached start.heap.live := heap ▸ reached.releaseAll _
  rw [← stack] at once ⊢
  have small := Nat.le_trans finished.size_le room
  obtain ⟨written, tidy⟩ := shape.writeBack_written fits (fun _ member => member)
    (Written.initial begun taken.unique_below) wrote small
  refine ⟨after.heap.live, finished.reached written.reached, ?_, ?_⟩
  · intro handle bound tied
    -- What was not live after the write-backs is the handle of the result.
    by_cases new : middle.heap.live handle = none
    · obtain ⟨rfl, holds⟩ := finished.fresh new bound room
      refine .inl ⟨top - plan.window, ⟨Nat.lt_succ_self _, holds⟩, ?_⟩
      rintro index ⟨inside, holds'⟩
      -- A second holder below the window would have held the handle while it was not live.
      by_contra other
      have lower := Nat.lt_of_le_of_ne (Nat.le_of_lt_succ inside) other
      rw [finished.owned?_below lower] at holds'
      rcases written.holding.bound index lower handle holds' with old | dangles
      · exact old new
      · exact tied (taken.dangling dangles)
    · rcases taken.held_or_lost written (fun settled => tidy settled Tidy.initial) tied new with
        once | ⟨free, lost⟩
      · have same (index : StackPtr) (lower : index < top - plan.window) :=
          finished.owned?_below lower
        exact .inl (once.extend finished.ret_le same (finished.unheld new room))
      · exact .inr ⟨finished.free new room free, lost⟩
  · rintro handle bound (left | ⟨refer, replaced⟩)
    · obtain ⟨spared, free⟩ := taken.left_spared bound left
      have kept := written.holding.kept handle spared
      refine ⟨finished.live_eq kept ▸ kept, finished.free kept room ?_⟩
      intro index lower holds
      exact free index lower (written.holding.old handle spared index lower holds)
    · obtain ⟨spared, free⟩ :=
        shape.replaced_free fits taken begun refer bound replaced wrote written small
      have kept := written.holding.kept handle spared
      exact ⟨finished.live_eq kept ▸ kept, finished.free kept room free⟩

/-! ## Handles without a holder of their own -/

def planOf (declaring : TypeRef) (method : Method) : Plan :=
  match build declaring method 0 with
  | .ok plan => plan
  | .error _ => default

def machineOf (slots : List Slot) (values : List Value) : Machine where
  stack := { slots }
  heap := (Heap.runOps (values.map .push)).1
  objects := { cells := [{ content := .native { typeName := "Figure", fields := [.i32 3] } }] }

def adjust : Method where
  name := "adjust"
  isStatic := true
  params := [
    { name := "count", type := .primitive "i32", byRef := true },
    { name := "amount", type := .primitive "i32" },
    { name := "other", type := figure }]
  result := some figure

def boxes : Machine :=
  machineOf [.object 0, .stackReference 0, .object 1, .object 2] [.i32 5, .i32 7, .object 0]

theorem adjust_loses_boxes : ∃ after final,
    boxes.run ((planOf figure adjust).execute answerNine 4) = (.ok 2, after) ∧
    Left figure adjust boxes.stack 4 1 1 ∧ Replaced adjust boxes.stack 4 1 0 ∧
    after.heap.Reached final ∧ (final 0 ≠ none ∧ ∀ index < 2, after.stack.owned? index ≠ some 0) ∧
    (final 1 ≠ none ∧ ∀ index < 2, after.stack.owned? index ≠ some 1) ∧
    HeldOnce after.stack.owned? 2 2 := by
  have built : build figure adjust 0 = .ok (planOf figure adjust) := rfl
  have ran : boxes.run ((planOf figure adjust).execute answerNine 4) =
      (.ok 2, (boxes.run ((planOf figure adjust).execute answerNine 4)).2) := rfl
  have once (handle : Nat) (bound : boxes.heap.live handle ≠ none) :
      HeldOnce boxes.stack.owned? 4 handle := by
    have each : ∀ handle < 3, HeldOnce boxes.stack.owned? 4 handle := by decide
    exact each handle (Heap.Sound.inside_of_live bound)
  have refersOnly (index target : Nat) (refers : RefersTo adjust boxes.stack 4 index target) :
      target < 1 := by
    obtain ⟨param, declared, byRef, refers⟩ := refers
    match index with
    | 0 =>
        cases refers
        decide
    | 1 | 2 =>
        cases declared
        cases byRef
    | index + 3 => cases declared
  have left : Left figure adjust boxes.stack 4 1 1 := by
    refine ⟨2, by decide, by decide, ?_, rfl⟩
    intro taken
    generalize place : 2 = slot at taken
    cases taken with
    | @param index param declared byValue known =>
        obtain rfl : index = 1 := by
          change 2 = 1 + index at place
          omega
        cases declared
        cases known
    | receiver onInstance => cases onInstance
  have replaced : Replaced adjust boxes.stack 4 1 0 :=
    ⟨0, by decide, ⟨0, _, .int32, ⟨_, rfl, rfl, rfl⟩, rfl, rfl, rfl⟩, rfl⟩
  obtain ⟨final, reached, holders, lost⟩ :=
    execute_holders built (Heap.reached_runOps _) once ran (by decide)
  refine ⟨_, final, ran, left, replaced, reached, ?_, ?_, ?_⟩
  · exact lost 0 (by decide) (.inr ⟨refersOnly, replaced⟩)
  · exact lost 1 (by decide) (.inl left)
  · have bound : final 2 ≠ none := by
      have same := reached.tracks.2
      simp only at same
      rw [same]
      decide
    rcases holders 2 bound (fun dangles => absurd dangles.1 (by decide)) with once | ⟨free, -⟩
    · exact once
    · exact absurd rfl (free 1 (by decide))

def Disowns (declaring : TypeRef) (method : Method) (slots : List Slot) (values : List Value) :
    Prop :=
  ∃ newTop after handle, build declaring method 0 = .ok (planOf declaring method) ∧
    (machineOf slots values).heap.Reached (machineOf slots values).heap.live ∧
    (∀ handle, (machineOf slots values).heap.live handle ≠ none →
      HeldOnce (machineOf slots values).stack.owned? slots.length handle) ∧
    (machineOf slots values).run ((planOf declaring method).execute answerNine slots.length) =
      (.ok newTop, after) ∧
    after.heap.live handle ≠ none ∧ ¬ HeldOnce after.stack.owned? newTop handle

theorem Disowns.intro {declaring : TypeRef} {method : Method} {slots : List Slot}
    {values : List Value} {newTop : StackPtr} (handle : Nat)
    (built : build declaring method 0 = .ok (planOf declaring method))
    (once : ∀ handle < (machineOf slots values).heap.size,
      HeldOnce (machineOf slots values).stack.owned? slots.length handle)
    (ran : ((machineOf slots values).run
      ((planOf declaring method).execute answerNine slots.length)).1 = .ok newTop)
    (bound : ((machineOf slots values).run
      ((planOf declaring method).execute answerNine slots.length)).2.heap.live handle ≠ none)
    (lost : ¬ HeldOnce ((machineOf slots values).run
      ((planOf declaring method).execute answerNine slots.length)).2.stack.owned? newTop handle) :
    Disowns declaring method slots values :=
  ⟨newTop, _, handle, built, Heap.reached_runOps _,
    fun handle bound => once handle (Heap.Sound.inside_of_live bound), Prod.ext ran rfl, bound,
    lost⟩

def taking (params : List Parameter) (result : Option TypeRef) : Method :=
  { name := "take", isStatic := true, params, result }

def numberParam (byRef : Bool) : Parameter := { name := "number", type := .primitive "i32", byRef }

def objectParam : Parameter := { name := "object", type := .any, byRef := true }

/-- The boxes of an argument, of a receiver and of a local have no holder in the end, and neither
have objects that were written to the window or replaced by a number. A handle that dangled has
two. -/
theorem not_always_heldOnce :
    Disowns figure (taking [numberParam false] none) [.object 0] [.i32 300] ∧
    Disowns (.primitive "i32") { name := "negate" } [.object 0] [.i32 300] ∧
    Disowns figure (taking [numberParam true] none) [.object 0, .stackReference 0] [.i32 300] ∧
    Disowns figure (taking [numberParam false] (some figure)) [.object 0, .integer 0] [] ∧
    Disowns figure (taking [objectParam] none) [.integer 0] [] ∧
    Disowns figure (taking [objectParam, numberParam false] none)
      [.stackReference 1, .integer 0] [] ∧
    Disowns figure (taking [numberParam true, objectParam] none)
      [.integer 0, .stackReference 0, .stackReference 0] [] ∧
    Disowns figure (taking [objectParam, numberParam true] none)
      [.object 0, .fieldReference 0 0, .stackReference 1] [.object 0] :=
  ⟨.intro 0 rfl (by decide) rfl (by decide) (by decide),
    .intro 0 rfl (by decide) rfl (by decide) (by decide),
    .intro 0 rfl (by decide) rfl (by decide) (by decide),
    .intro 0 rfl (by decide) rfl (by decide) (by decide),
    .intro 0 rfl (by decide) rfl (by decide) (by decide),
    .intro 0 rfl (by decide) rfl (by decide) (by decide),
    .intro 0 rfl (by decide) rfl (by decide) (by decide),
    .intro 1 rfl (by decide) rfl (by decide) (by decide)⟩

end Plan

end NativeBridge
