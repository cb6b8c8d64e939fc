import NativeBridge.Proofs.Calls.Exits
import NativeBridge.Proofs.Machine.LiveHandles

/-!
# What a call does to the heap

A call takes over the handles of objects passed by value and the one of the receiver, and gives them
up one by one while it reads.

* `TakesOver`, `Consumed`: the slots and the handles that a call takes over, in terms of the method.
* `Built.mem_released_iff`: these are the handles that the reads of the plan give up.
* `execute_heap`: what a call without parameters passed by reference leaves on the heap, whatever
  the order in which it gives up handles.
-/

namespace NativeBridge

theorem SlotRead.mem_released_iff {read : SlotRead} {stack : EvalStack} {top : StackPtr}
    {handle : Nat} : handle ∈ read.released stack top ↔
      read.free = true ∧ stack.owned? (top - read.offset) = some handle := by
  rw [released]
  split
  · rename_i free
    rw [Option.mem_toList]
    exact (and_iff_right free).symm
  · rename_i kept
    constructor
    · intro member
      cases member
    · intro free
      exact absurd free.1 kept

theorem TypeRef.kind?_of_isVoid {type : TypeRef} (void : type.isVoid = true) :
    type.kind? = none := by
  rw [isVoid, beq_iff_eq] at void
  rw [kind?, void]

theorem Kind.eq_object_of_not_numeric {kind : Kind} (object : kind.isNumeric = false) :
    kind = .object := by
  cases kind <;> first | rfl | cases object

theorem Slot.index_object {handle : Nat} (small : handle < UInt64.size) :
    (object (.ofNat handle)).index = handle :=
  UInt64.toNat_ofNat_of_lt' small

theorem EvalStack.owned?_object {stack : EvalStack} {index : StackPtr} {word : UInt64}
    (found : stack.slots[index]? = some (.object word)) :
    stack.owned? index = some (Slot.object word).index := by
  rw [owned?, found]
  rfl

namespace Plan

inductive TakesOver (declaring : TypeRef) (method : Method) (top : StackPtr) : StackPtr → Prop where
  | param {index : Nat} {param : Parameter} : method.params[index]? = some param →
      param.byRef = false → param.type.kind? = some .object →
      TakesOver declaring method top (top - method.params.length + index)
  | receiver : method.isStatic = false → declaring.isPrimitive = false →
      TakesOver declaring method top (top - method.params.length - 1)

/-- A handle that a call takes over with the slot that holds it. -/
def Consumed (declaring : TypeRef) (method : Method) (stack : EvalStack) (top : StackPtr)
    (handle : Nat) : Prop :=
  ∃ index, TakesOver declaring method top index ∧ stack.owned? index = some handle

section Released

variable {declaring : TypeRef} {method : Method} {plan : Plan}

theorem Built.mem_reads_iff (built : plan.Built declaring method) {read : SlotRead} :
    read ∈ plan.reads ↔
      (∃ index param kind, method.params[index]? = some param ∧ param.type.kind? = some kind ∧
        read = (stepOf method param index kind).read) ∨
      method.isStatic = false ∧ ∃ kind, declaring.kind? = some kind ∧
        read = (receiverOf declaring method kind).read plan.signature := by
  rw [reads, List.mem_append, List.mem_map]
  apply or_congr
  · constructor
    · rintro ⟨step, listed, rfl⟩
      obtain ⟨index, param, kind, declared, known, rfl⟩ := built.step_of_mem listed
      exact ⟨index, param, kind, declared, known, rfl⟩
    · rintro ⟨index, param, kind, declared, known, rfl⟩
      obtain ⟨found, known', listed⟩ := built.params_getElem? declared
      obtain rfl : found = kind := Option.some.inj (known'.symm.trans known)
      exact ⟨_, List.mem_reverse.mp (List.mem_of_getElem? listed), rfl⟩
  · have receiver := built.receiver_eq
    cases static : method.isStatic with
    | true =>
        rw [static, if_pos rfl] at receiver
        simp [receiver]
    | false =>
        rw [static, if_neg Bool.false_ne_true] at receiver
        obtain ⟨kind, known, receiver⟩ := receiver
        simp [receiver, known]

theorem Built.mem_released_iff (built : plan.Built declaring method) {stack : EvalStack}
    {top : StackPtr} (fits : plan.window ≤ top) {handle : Nat} :
    handle ∈ released stack top plan.reads ↔ Consumed declaring method stack top handle := by
  have room := Nat.le_trans built.params_le_window fits
  simp only [released, List.mem_flatMap, built.mem_reads_iff, SlotRead.mem_released_iff]
  constructor
  · rintro ⟨read, ⟨index, param, kind, declared, known, rfl⟩ | ⟨onInstance, kind, known, rfl⟩, free,
      owned⟩
    · obtain ⟨inside, -⟩ := List.getElem?_eq_some_iff.mp declared
      simp only [ParamStep.read, stepOf, Bool.and_eq_true, Bool.not_eq_true', beq_iff_eq] at free
      simp only [ParamStep.read, stepOf, StackPtr.sub_place inside room] at owned
      obtain ⟨byValue, rfl⟩ := free
      exact ⟨_, .param declared byValue known, owned⟩
    · simp only [ReceiverStep.read, receiverOf, Bool.not_eq_true'] at free
      exact ⟨_, .receiver onInstance free, owned⟩
  · rintro ⟨slot, taken, owned⟩
    cases taken with
    | @param index param declared byValue known =>
        obtain ⟨inside, -⟩ := List.getElem?_eq_some_iff.mp declared
        refine ⟨_, .inl ⟨index, param, .object, declared, known, rfl⟩, ?_, ?_⟩
        · simp [ParamStep.read, stepOf, byValue]
        · simp only [ParamStep.read, stepOf, StackPtr.sub_place inside room]
          exact owned
    | receiver onInstance reference =>
        have receiver := built.receiver_eq
        rw [onInstance, if_neg Bool.false_ne_true] at receiver
        obtain ⟨kind, known, -⟩ := receiver
        refine ⟨_, .inr ⟨onInstance, kind, known, rfl⟩, ?_, owned⟩
        simp [ReceiverStep.read, receiverOf, reference]

end Released

theorem Finished.heap {declaring : TypeRef} {method : Method} {step : ReturnStep}
    {ret newTop : StackPtr} {value : Value} {before after : Machine}
    (asked : returnStep declaring method = .ok step)
    (finished : Finished ret value before step newTop after) :
    if method.resultType.kind? = some .object then
      after.heap = (before.heap.push (if method.resultType.isSealed then value
        else after.objects.unwrapAdapter value)).2 ∧ newTop = ret + 1 ∧
        after.stack.slots[ret]? = some (.object (.ofNat before.heap.size))
    else after.heap = before.heap := by
  rw [returnStep_eq_ok] at asked
  split at asked
  · rename_i void
    subst asked
    rw [TypeRef.kind?_of_isVoid void, if_neg nofun]
    cases finished
    rfl
  · obtain ⟨kind, known, rfl⟩ := asked
    rw [known]
    cases numeric : kind.isNumeric with
    | true =>
        rw [numeric, if_pos rfl] at finished
        rw [if_neg (fun same => by cases same; cases numeric)]
        cases finished
        rfl
    | false =>
        obtain rfl := Kind.eq_object_of_not_numeric numeric
        cases finished with
        | object inside =>
            rw [if_pos rfl]
            refine ⟨?_, rfl, List.getElem?_set_self inside⟩
            cases method.resultType.isSealed <;> rfl

theorem Finished.reached {ret newTop : StackPtr} {value : Value} {before after : Machine}
    {step : ReturnStep} (finished : Finished ret value before step newTop after)
    (reached : before.heap.Reached before.heap.live) : after.heap.Reached after.heap.live := by
  cases finished with
  | void | value => exact reached
  | object => exact reached.push _

theorem Finished.live_eq {ret newTop : StackPtr} {value : Value} {before after : Machine}
    {step : ReturnStep} (finished : Finished ret value before step newTop after) {handle : Nat}
    (bound : before.heap.live handle ≠ none) :
    after.heap.live handle = before.heap.live handle := by
  cases finished with
  | void | value => rfl
  | object => exact Heap.live_push_of_live bound _

def ObjectPushed (given : Heap) (kept : LiveMap) (base : StackPtr) (after : Machine)
    (final : LiveMap) (object : Value) : Prop :=
  ∃ handle, given.push object = (handle, after.heap) ∧ kept handle = none ∧
    final = Function.update kept handle (some object) ∧
    after.stack.slots[base]? = some (.object (.ofNat handle)) ∧
    (handle < UInt64.size → after.stack.owned? base = some handle)

/-- A call that passes nothing by reference gives up the handles that it takes over, in whatever
order, and an object that it answers gets a handle that was not live. -/
theorem execute_heap {declaring : TypeRef} {method : Method} {ordinal : Nat} {plan : Plan}
    {body : NativeBody} {top newTop : StackPtr} {before after : Machine} {live : LiveMap}
    (built : build declaring method ordinal = .ok plan)
    (byValue : ∀ param ∈ method.params, param.byRef = false)
    (reached : before.heap.Reached live)
    (ran : before.run (plan.execute body top) = (.ok newTop, after)) :
    ∃ entry value kept final, after.entered = before.entered ++ [entry] ∧
      (body entry.call entry.objects entry.types).result = .ok value ∧
      (∀ handle, Consumed declaring method before.stack top handle → kept handle = none) ∧
      (∀ handle, ¬ Consumed declaring method before.stack top handle →
        kept handle = live handle) ∧
      after.heap.Reached final ∧
      (∀ handle held, kept handle = some held →
        final handle = some held ∧ after.heap.get handle = .ok held) ∧
      (∃ order : List Nat, ∀ handle,
        handle ∈ order ↔ Consumed declaring method before.stack top handle) ∧
      ∀ order : List Nat,
        (∀ handle, handle ∈ order ↔ Consumed declaring method before.stack top handle) →
        (before.heap.releaseAll order).Reached kept ∧
        if method.resultType.kind? = some .object then
          newTop = top - plan.window + 1 ∧
            ObjectPushed (before.heap.releaseAll order) kept (top - plan.window) after final
              (if method.resultType.isSealed then value else after.objects.unwrapAdapter value)
        else after.heap = before.heap.releaseAll order ∧ final = kept := by
  have shape := build_built built
  obtain ⟨entry, value, held, start, middle, fits, entered, answer, stack, heap, wrote, finished⟩ :=
    execute_succeeds ran
  have nothing : plan.writeBacks = [] := by
    apply List.eq_nil_iff_forall_not_mem.mpr
    intro step member
    obtain ⟨param, declared, byRef, -⟩ := shape.mem_writeBacks_iff.mp member
    rw [byValue param (List.mem_of_getElem? declared)] at byRef
    cases byRef
  rw [nothing] at wrote
  obtain ⟨-, rfl⟩ := Prod.mk.inj wrote
  obtain ⟨sound, same⟩ := reached.tracks
  simp only at sound same
  subst same
  have gives (handle : Nat) : handle ∈ released before.stack top plan.reads ↔
      Consumed declaring method before.stack top handle := shape.mem_released_iff fits
  generalize released before.stack top plan.reads = order at gives heap
  have given := reached.releaseAll order
  have effect := finished.heap shape.ret
  rw [heap] at effect
  have final : after.heap.Reached after.heap.live := finished.reached (heap ▸ given)
  have stays (handle : Nat) (held : Value)
      (bound : (before.heap.releaseAll order).live handle = some held) :
      after.heap.live handle = some held := by
    rw [← heap] at bound
    rw [finished.live_eq (by simp [bound]), bound]
  refine ⟨entry, value, (before.heap.releaseAll order).live, after.heap.live, entered, answer,
    ?_, ?_, final, ?_, ⟨order, gives⟩, ?_⟩
  · intro handle consumed
    rw [Heap.live_releaseAll, if_pos ((gives handle).mpr consumed)]
  · intro handle spared
    rw [Heap.live_releaseAll, if_neg (fun member => spared ((gives handle).mp member))]
  · intro handle held bound
    have bound := stays handle held bound
    refine ⟨bound, ?_⟩
    rw [final.tracks.1.get_eq, bound]
  · intro other members
    have same := sound.releaseAll_congr fun handle => (members handle).trans (gives handle).symm
    rw [same]
    refine ⟨given, ?_⟩
    split at effect
    · rename_i object
      obtain ⟨pushed, newTop, slot⟩ := effect
      rw [if_pos object]
      refine ⟨newTop, (before.heap.releaseAll order).size, Prod.ext rfl pushed.symm,
        Heap.live_size _, ?_, slot, ?_⟩
      · rw [pushed, Heap.live_push]
      · intro small
        rw [EvalStack.owned?_object slot, Slot.index_object small]
    · rename_i other
      rw [if_neg other]
      exact ⟨effect, congrArg Heap.live effect⟩

def merge : Method where
  name := "merge"
  params := [{ name := "other", type := figure }]
  result := some figure

def mergePlan : Plan :=
  match build figure merge 0 with
  | .ok plan => plan
  | .error _ => default

def mergers : Machine where
  stack := { slots := [.object 0, .object 2, .object 1] }
  heap := (Heap.runOps [.push (.object 0), .push (.object 1), .push (.object 2)]).1
  objects := { cells := List.replicate 3 { content := .native { typeName := "Figure" } } }

theorem merge_takes_over : ∃ after, build figure merge 0 = .ok mergePlan ∧
    mergers.run (mergePlan.execute answerNine 3) = (.ok 2, after) ∧
    Consumed figure merge mergers.stack 3 1 ∧ Consumed figure merge mergers.stack 3 2 ∧
    after.heap = ((mergers.heap.releaseAll [2, 1]).push (.object 2)).2 ∧
    after.heap.get 0 = .ok (.object 0) ∧ after.stack.owned? 1 = some 1 := by
  have built : build figure merge 0 = .ok mergePlan := rfl
  have ran : mergers.run (mergePlan.execute answerNine 3) =
      (.ok 2, (mergers.run (mergePlan.execute answerNine 3)).2) := rfl
  have byValue : ∀ param ∈ merge.params, param.byRef = false := by decide
  have reached : mergers.heap.Reached
      (Heap.runOps [.push (.object 0), .push (.object 1), .push (.object 2)]).2 := ⟨_, rfl⟩
  have argument : Consumed figure merge mergers.stack 3 1 :=
    ⟨2, .param (show merge.params[0]? = some _ from rfl) rfl rfl, rfl⟩
  have receiver : Consumed figure merge mergers.stack 3 2 := ⟨1, .receiver rfl rfl, rfl⟩
  have order (handle : Nat) : handle ∈ [2, 1] ↔ Consumed figure merge mergers.stack 3 handle := by
    constructor
    · intro member
      rcases List.mem_cons.mp member with rfl | member
      · exact receiver
      · rw [List.mem_singleton.mp member]
        exact argument
    · rintro ⟨slot, taken, owned⟩
      cases taken with
      | @param index param declared byValue known =>
          cases index with
          | zero =>
              cases owned
              decide
          | succ index => cases declared
      | receiver onInstance reference =>
          cases owned
          decide
  obtain ⟨entry, value, kept, final, entered, answer, -, spared, -, stays, -, effect⟩ :=
    execute_heap built byValue reached ran
  cases entered
  cases answer
  obtain ⟨-, -, handle, pushed, -, -, -, owned⟩ := effect [2, 1] order
  have below : ¬ Consumed figure merge mergers.stack 3 0 := by
    rw [← order]
    decide
  refine ⟨_, built, ran, argument, receiver, (congrArg Prod.snd pushed).symm, ?_, ?_⟩
  · exact (stays 0 _ ((spared 0 below).trans rfl)).2
  · obtain rfl : 1 = handle := congrArg Prod.fst pushed
    exact owned (by decide)

end Plan

end NativeBridge
