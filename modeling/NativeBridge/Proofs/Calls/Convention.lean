import NativeBridge.Proofs.Calls.Exits
import NativeBridge.Proofs.Calls.Reach

/-!
# The calling convention

What a native body receives and where its result goes, in terms of the method alone.

* `Enters.takenFrom`: as long as no read reaches an entry that an earlier one gave up, the body
  receives what the slots of the window held before the call.
* `execute_convention`: a body is entered at most once, in this way, and a call that succeeds leaves
  its result in the lowest slot of the window.
-/

namespace NativeBridge

theorem Machine.read_eq_ok {machine : Machine} {top : StackPtr} {read : SlotRead} {value : Value} :
    machine.read top read = .ok value ↔ read.offset ≤ top ∧
      machine.loadSlot read.resolve (top - read.offset) read.kind read.coercion = .ok value ∧
      (read.refusal.isSome → value.isNull = false) := by
  simp only [Machine.read, bind_eq_ok]
  constructor
  · rintro ⟨index, below, loaded, found, accepted⟩
    obtain ⟨fits, rfl⟩ := StackPtr.minus_ok below
    split at accepted
    · rename_i fault refusal
      split at accepted
      · cases accepted
      · rename_i present
        cases accepted
        exact ⟨fits, found, fun _ => by simpa using present⟩
    · rename_i refusal
      cases accepted
      exact ⟨fits, found, by simp [refusal]⟩
  · rintro ⟨fits, found, accepted⟩
    refine ⟨top - read.offset, if_pos fits, value, found, ?_⟩
    split
    · rename_i fault refusal
      rw [accepted (by simp [refusal]), if_neg Bool.false_ne_true]
    · rfl

namespace Plan

/-! ## Arguments -/

theorem placed_descending {steps : List ParamStep} {values args : List Value} {count : Nat}
    (descends : steps.map (·.index) = (List.range count).reverse)
    (length : values.length = steps.length) (room : count ≤ args.length) :
    placed steps values args = values.reverse ++ args.drop count := by
  induction steps generalizing values args count with
  | nil =>
      obtain rfl := List.length_eq_zero_iff.mp length
      cases count with
      | zero => rfl
      | succ count => simp at descends
  | cons step rest ih =>
      cases values with
      | nil => cases length
      | cons value values =>
          cases count with
          | zero => simp at descends
          | succ count =>
              rw [List.range_succ, List.reverse_append] at descends
              obtain ⟨here, descends⟩ := List.cons.inj descends
              have place : step.index = count := here
              have inside : count < args.length := room
              rw [placed, place, ih descends (Nat.succ.inj length) (by simp; omega),
                List.reverse_cons, List.append_assoc, List.drop_set,
                if_neg (Nat.lt_irrefl count), Nat.sub_self, List.drop_eq_getElem_cons inside]
              rfl

/-- The receiver and the arguments of a call are what the slots of its window hold. -/
structure TakenFrom (declaring : TypeRef) (method : Method) (top : StackPtr) (machine : Machine)
    (call : NativeCall) : Prop where
  signature : call.method = method.signature declaring
  length : call.args.length = method.params.length
  args : ∀ index param, method.params[index]? = some param →
    ∃ kind value, param.type.kind? = some kind ∧ call.args[index]? = some value ∧
      machine.loadSlot param.byRef (top - method.params.length + index) kind
        (coercionFor param.type) = .ok value
  receiver : if method.isStatic then call.receiver = none
    else ∃ kind value, declaring.kind? = some kind ∧ call.receiver = some value ∧
      value.isNull = false ∧
      machine.loadSlot declaring.isValueType (top - method.params.length - 1) kind
        (coercionFor declaring) = .ok value

theorem Reads.split_before {plan : Plan} {top : StackPtr} {machine after : Machine}
    {values : List Value} {receiver : Option Value}
    (length : values.length = plan.params.length)
    (taken : Reads top machine plan.reads (values ++ receiver.toList) after)
    (once : ReadOnce machine.stack top plan.reads) :
    List.Forall₂ (fun step value => machine.read top step.read = .ok value) plan.params values ∧
      List.Forall₂ (fun step value => machine.read top (step.read plan.signature) = .ok value)
        plan.receiver.toList receiver.toList := by
  have pairs := taken.read_before once
  have count : values.length = (plan.params.map (·.read)).length := by
    rw [length, List.length_map]
  have params := List.forall₂_take_append _ _ _ pairs
  have self := List.forall₂_drop_append _ _ _ pairs
  rw [reads, List.take_left' count.symm, List.forall₂_map_left_iff] at params
  rw [reads, List.drop_left' count.symm, Option.toList_map, List.forall₂_map_left_iff] at self
  exact ⟨params, self⟩

theorem Enters.takenFrom {declaring : TypeRef} {method : Method} {plan : Plan} {top : StackPtr}
    {before met : Machine} {call : NativeCall} (built : plan.Built declaring method)
    (once : ReadOnce before.stack top plan.reads) (enters : plan.Enters top before call met) :
    TakenFrom declaring method top before call := by
  cases enters with
  | @intro values receiver read fits length taken =>
      obtain ⟨params, self⟩ := Reads.split_before length taken once
      have args : (plan.callWith values receiver).args = values.reverse := by
        rw [callWith, placed_descending built.indexes length (by simp [built.length_params])]
        simp [built.length_params]
      refine ⟨built.signature, ?_, ?_, ?_⟩
      · rw [args, List.length_reverse, length, built.length_params]
      · intro index param declared
        obtain ⟨kind, known, step⟩ := built.params_getElem? declared
        obtain ⟨value, placed, taken⟩ := forall₂_getElem? (List.forall₂_reverse_iff.mpr params) step
        obtain ⟨inside, -⟩ := List.getElem?_eq_some_iff.mp declared
        have room : method.params.length ≤ top := Nat.le_trans built.params_le_window fits
        have loaded := (Machine.read_eq_ok.mp taken).2.1
        simp only [ParamStep.read, stepOf, StackPtr.sub_place inside room] at loaded
        exact ⟨kind, value, known, by rw [args, placed], loaded⟩
      · have asked := built.receiver_eq
        split at asked
        · rw [if_pos ‹_›]
          rw [asked] at self
          cases receiver with
          | none => rfl
          | some value => cases self
        · rw [if_neg ‹_›]
          obtain ⟨kind, known, asked⟩ := asked
          rw [asked] at self
          cases receiver with
          | none => cases self
          | some value =>
              obtain ⟨-, loaded, accepted⟩ :=
                Machine.read_eq_ok.mp (List.forall₂_cons.mp self).1
              exact ⟨kind, value, known, rfl, accepted rfl, loaded⟩

/-! ## Results -/

/-- A call has left its result on the machine, in a slot of its own unless it is void. -/
def Returned (method : Method) (base newTop : StackPtr) (value : Value) (after : Machine) : Prop :=
  if method.resultType.isVoid then newTop = base
  else newTop = base + 1 ∧ ∃ kind slot, method.resultType.kind? = some kind ∧
    after.stack.slots[base]? = some slot ∧
    if kind.isNumeric then kind.encode? value = some slot
    else ∃ entry, slot = .object (.ofNat entry) ∧ (entry < UInt64.size → slot.index = entry) ∧
      after.heap.get entry =
        .ok (if method.resultType.isSealed then value else after.objects.unwrapAdapter value)

theorem Finished.returned {declaring : TypeRef} {method : Method} {step : ReturnStep}
    {ret newTop : StackPtr} {value : Value} {before after : Machine}
    (asked : returnStep declaring method = .ok step)
    (finished : Finished ret value before step newTop after) :
    Returned method ret newTop value after := by
  rw [returnStep_eq_ok] at asked
  rw [Returned]
  split at asked
  · rw [if_pos ‹_›]
    subst asked
    cases finished
    rfl
  · rw [if_neg ‹_›]
    obtain ⟨kind, known, rfl⟩ := asked
    cases numeric : kind.isNumeric with
    | true =>
        rw [numeric, if_pos rfl] at finished
        cases finished with
        | value encoded inside =>
            refine ⟨rfl, kind, _, known, List.getElem?_set_self inside, ?_⟩
            rw [if_pos numeric]
            exact encoded
    | false =>
        rw [numeric, if_neg Bool.false_ne_true] at finished
        cases finished with
        | object inside =>
            refine ⟨rfl, kind, _, known, List.getElem?_set_self inside, ?_⟩
            rw [if_neg (by simp [numeric])]
            refine ⟨before.heap.size, rfl, UInt64.toNat_ofNat_of_lt', ?_⟩
            rw [Heap.get_push]
            cases method.resultType.isSealed <;> rfl

/-- A native body is entered at most once. It receives what the slots of the window held before the
call, and a call that succeeds leaves its result in the lowest slot of the window. -/
theorem execute_convention {declaring : TypeRef} {method : Method} {ordinal : Nat} {plan : Plan}
    {body : NativeBody} {top : StackPtr} {before after : Machine}
    {result : Except Fault StackPtr} (built : build declaring method ordinal = .ok plan)
    (once : ReadOnce before.stack top plan.reads)
    (ran : before.run (plan.execute body top) = (result, after)) :
    plan.window = method.params.length + (if method.isStatic then 0 else 1) ∧
      ((after.entered = before.entered ∧ ∃ fault, result = .error fault) ∨
        ∃ entry, plan.window ≤ top ∧ after.entered = before.entered ++ [entry] ∧
          TakenFrom declaring method top before entry.call ∧
          entry.objects.contents = before.objects.contents ∧ entry.types = before.types ∧
          ∀ newTop, result = .ok newTop → ∃ value,
            (body entry.call entry.objects entry.types).result = .ok value ∧
            Returned method (top - plan.window) newTop value after) := by
  have shape := build_built built
  refine ⟨shape.window, ?_⟩
  cases execute_ends ran with
  | underflow short => exact .inl ⟨rfl, _, rfl⟩
  | unread fits stops =>
      obtain ⟨reached, read, others, values, split, taken, refused⟩ := stops
      rw [taken.after_eq]
      exact .inl ⟨rfl, _, rfl⟩
  | @refused call met reply failure enters replied answer =>
      have takenFrom := enters.takenFrom shape once
      obtain ⟨held, rfl⟩ := enters.met_eq
      refine .inr ⟨⟨call, _, _⟩, enters.fits, rfl, takenFrom, Objects.collect_contents _ _, rfl, ?_⟩
      intro newTop succeeds
      cases succeeds
  | @answered call met after reply value result enters replied answer concluded =>
      have takenFrom := enters.takenFrom shape once
      obtain ⟨held, rfl⟩ := enters.met_eq
      subst replied
      refine .inr ⟨⟨call, _, _⟩, enters.fits, entered_of_conclude concluded, takenFrom,
        Objects.collect_contents _ _, rfl, ?_⟩
      rintro newTop rfl
      obtain ⟨written, middle, wrote, ⟨top, same, finished⟩ | ⟨fault, heap, failed, -⟩⟩ :=
        conclude_cases concluded
      · cases same
        exact ⟨value, answer, finished.returned shape.ret⟩
      · cases failed

theorem move_called : ∃ after, build figure move 0 = .ok movePlan ∧
    ReadOnce (figures (.integer 5)).stack 4 movePlan.reads ∧
    (figures (.integer 5)).run (movePlan.execute answerNine 4) = (.ok 2, after) ∧
    ∃ entry value, after.entered = [entry] ∧
      TakenFrom figure move 4 (figures (.integer 5)) entry.call ∧ Returned move 1 2 value after := by
  have once : ReadOnce (figures (.integer 5)).stack 4 movePlan.reads := by decide
  have ran : (figures (.integer 5)).run (movePlan.execute answerNine 4) =
      (.ok 2, ((figures (.integer 5)).run (movePlan.execute answerNine 4)).2) := rfl
  obtain ⟨-, ⟨-, fault, failed⟩ | ⟨entry, -, entered, taken, -, -, returns⟩⟩ :=
    execute_convention build_move once ran
  · cases failed
  · obtain ⟨value, -, returned⟩ := returns 2 rfl
    exact ⟨_, build_move, once, ran, entry, value, entered, taken, returned⟩

end Plan

end NativeBridge
