import NativeBridge.Proofs.Calls.Reading
import NativeBridge.Proofs.Calls.Writing
import NativeBridge.Proofs.Machine.Objects
import NativeBridge.Proofs.Planning.PlanShape

/-!
# The ways in which a plan ends

Every run of a plan ends in one of four ways: the window does not fit, a slot cannot be read, the
body gives no result, or the body gives one and it is written.

* `execute_ends`: a run ends in one of these ways.
* `execute_succeeds`: the phases of a run that succeeds, with the machines in between.
* `execute_unanswered`: a run that fails without a result of the body leaves the stack alone, and of
  the heap it has given up no more than arguments that were read. Objects and statics are as they
  were, or as a body that was entered left them.
-/

namespace NativeBridge

namespace Machine

def replied (machine : Machine) (call : NativeCall) (reply : NativeReply) : Machine :=
  { machine with
    objects := reply.objects
    types := reply.types
    entered := machine.entered ++ [{ call, objects := machine.objects, types := machine.types }] }

theorem types_collect (machine : Machine) (held : List Value) :
    (machine.collect held).types = machine.types := rfl

end Machine

namespace Plan

def callWith (plan : Plan) (values : List Value) (receiver : Option Value) : NativeCall where
  method := plan.signature
  receiver := receiver
  args := placed plan.params values (List.replicate plan.params.length .null)

def heldBy (call : NativeCall) (reply : NativeReply) (result : Value) : List Value :=
  result :: call.receiver.toList ++ reply.args

/-- The part of a plan that follows the reads. -/
def perform (plan : Plan) (body : NativeBody) (top ret : StackPtr) (call : NativeCall) :
    MachineM StackPtr := do
  let (result, args) ← enter body call
  let held := result :: call.receiver.toList ++ args
  modify (Machine.collect held)
  plan.conclude top ret args held result

inductive Enters (plan : Plan) (top : StackPtr) (before : Machine) :
    NativeCall → Machine → Prop where
  | intro {values : List Value} {receiver : Option Value} {read : Machine} :
      plan.window ≤ top → values.length = plan.params.length →
      Reads top before plan.reads (values ++ receiver.toList) read →
      Enters plan top before (plan.callWith values receiver)
        (read.collect (receiver.toList ++ (plan.callWith values receiver).args))

inductive Ends (plan : Plan) (body : NativeBody) (top : StackPtr) (before : Machine) :
    Except Fault StackPtr → Machine → Prop where
  | underflow : top < plan.window →
      Ends plan body top before (.error (.stackUnderflow plan.window top)) before
  | unread {fault : Fault} {after : Machine} : plan.window ≤ top →
      ReadFails top before plan.reads fault after →
      Ends plan body top before (.error fault) after
  | refused {call : NativeCall} {met : Machine} {reply : NativeReply} {failure : NativeFailure} :
      plan.Enters top before call met → body call met.objects met.types = reply →
      reply.result = .error failure →
      Ends plan body top before (.error (.native (failure.toFault call.method)))
        (met.replied call reply)
  | answered {call : NativeCall} {met after : Machine} {reply : NativeReply} {value : Value}
      {result : Except Fault StackPtr} :
      plan.Enters top before call met → body call met.objects met.types = reply →
      reply.result = .ok value →
      ((met.replied call reply).collect (heldBy call reply value)).run
        (plan.conclude top (top - plan.window) reply.args (heldBy call reply value) value) =
          (result, after) →
      Ends plan body top before result after

theorem run_enter (machine : Machine) (body : NativeBody) (call : NativeCall) :
    let met := machine.collect (call.receiver.toList ++ call.args)
    let reply := body call met.objects met.types
    machine.run (enter body call) = match reply.result with
      | .ok value => (.ok (value, reply.args), met.replied call reply)
      | .error failure =>
          (.error (.native (failure.toFault call.method)), met.replied call reply) := by
  simp only [enter, Machine.run_bind, Machine.run_modify, Machine.run_get, Machine.run_set]
  generalize machine.collect (call.receiver.toList ++ call.args) = met
  cases (body call met.objects met.types).result <;> rfl

theorem ends_of_enters {plan : Plan} {body : NativeBody} {top : StackPtr}
    {before middle after : Machine} {call : NativeCall} {result : Except Fault StackPtr}
    (enters : plan.Enters top before call (middle.collect (call.receiver.toList ++ call.args)))
    (ran : middle.run (plan.perform body top (top - plan.window) call) = (result, after)) :
    plan.Ends body top before result after := by
  rw [perform, Machine.run_bind, run_enter] at ran
  generalize middle.collect (call.receiver.toList ++ call.args) = met at enters ran
  cases answer : (body call met.objects met.types).result with
  | error failure =>
      simp only [answer] at ran
      obtain ⟨rfl, rfl⟩ := Prod.mk.inj ran
      exact .refused enters rfl answer
  | ok value =>
      simp only [answer] at ran
      exact .answered enters rfl answer ran

theorem execute_ends {plan : Plan} {body : NativeBody} {top : StackPtr} {before after : Machine}
    {result : Except Fault StackPtr}
    (ran : before.run (plan.execute body top) = (result, after)) :
    plan.Ends body top before result after := by
  rw [execute, Machine.run_bind, Machine.run_lift] at ran
  by_cases fits : plan.window ≤ top
  · rw [StackPtr.minus, if_pos fits] at ran
    simp only at ran
    rw [Machine.run_bind] at ran
    rcases run_readParams before top plan.params (List.replicate plan.params.length .null) with
      ⟨values, middle, params, took⟩ | ⟨fault, stopped, failed, stops⟩
    · rw [took] at ran
      simp only at ran
      rw [Machine.run_bind] at ran
      rcases run_mapM_readReceiver middle top plan.signature plan.receiver with
        ⟨receiver, read, self, took⟩ | ⟨fault, stopped, failed, stops⟩
      · rw [took] at ran
        have length : values.length = plan.params.length := by
          rw [params.length_eq, List.length_map]
        exact ends_of_enters (.intro fits length (params.append self)) ran
      · rw [stops] at ran
        obtain ⟨rfl, rfl⟩ := Prod.mk.inj ran
        exact .unread fits (params.append_fails failed)
    · rw [stops] at ran
      obtain ⟨rfl, rfl⟩ := Prod.mk.inj ran
      exact .unread fits (failed.append _)
  · rw [StackPtr.minus, if_neg fits] at ran
    obtain ⟨rfl, rfl⟩ := Prod.mk.inj ran
    exact .underflow (Nat.lt_of_not_le fits)

theorem Enters.met_eq {plan : Plan} {top : StackPtr} {before met : Machine} {call : NativeCall}
    (enters : plan.Enters top before call met) :
    ∃ held, met = (before.giveUp (released before.stack top plan.reads)).collect held := by
  cases enters with
  | intro fits length taken =>
      rw [taken.after_eq]
      exact ⟨_, rfl⟩

theorem Enters.fits {plan : Plan} {top : StackPtr} {before met : Machine} {call : NativeCall}
    (enters : plan.Enters top before call met) : plan.window ≤ top := by
  cases enters with
  | intro fits length taken => exact fits

theorem execute_succeeds {plan : Plan} {body : NativeBody} {top newTop : StackPtr}
    {before after : Machine}
    (ran : before.run (plan.execute body top) = (.ok newTop, after)) :
    ∃ (entry : Entered) (value : Value) (held : List Value) (start middle : Machine),
      plan.window ≤ top ∧ after.entered = before.entered ++ [entry] ∧
      (body entry.call entry.objects entry.types).result = .ok value ∧
      start.stack = before.stack ∧
      start.heap = before.heap.releaseAll (released before.stack top plan.reads) ∧
      start.run
          (writeBack top (body entry.call entry.objects entry.types).args held plan.writeBacks) =
        (.ok (), middle) ∧
      Finished (top - plan.window) value middle plan.ret newTop after := by
  cases execute_ends ran with
  | @answered call met after reply value result enters replied answer concluded =>
      have fits := enters.fits
      have entered := entered_of_conclude concluded
      obtain ⟨held, rfl⟩ := enters.met_eq
      subst replied
      obtain ⟨middle, wrote, finished⟩ := conclude_ok concluded
      refine ⟨⟨call, _, _⟩, value, _, _, middle, fits, entered, answer, ?_, ?_, wrote, finished⟩
      · rfl
      · rfl

/-! ## Runs without a result of the body -/

theorem Built.read_offset {declaring : TypeRef} {method : Method} {plan : Plan}
    (built : plan.Built declaring method) {read : SlotRead} (member : read ∈ plan.reads) :
    0 < read.offset ∧ read.offset ≤ plan.window := by
  rw [built.window]
  rcases List.mem_append.mp member with param | receiver
  · obtain ⟨step, listed, rfl⟩ := List.mem_map.mp param
    have bounds := built.step_offset listed
    simp only [ParamStep.read]
    omega
  · have self := built.receiver_eq
    split at self
    · rw [self] at receiver
      cases receiver
    · obtain ⟨kind, -, self⟩ := self
      simp only [self, Option.map_some, Option.toList_some, List.mem_singleton] at receiver
      subst receiver
      rw [if_neg ‹_›]
      exact ⟨Nat.succ_pos _, Nat.le_refl _⟩

def OwnedBetween (stack : EvalStack) (bottom top : StackPtr) (entry : Nat) : Prop :=
  ∃ index slot, bottom ≤ index ∧ index < top ∧ stack.slots[index]? = some slot ∧
    slot.tag = .objectReference ∧ slot.index = entry

theorem Built.owned_of_released {declaring : TypeRef} {method : Method} {plan : Plan}
    (built : plan.Built declaring method) {stack : EvalStack} {top : StackPtr}
    (fits : plan.window ≤ top) {reads rest : List SlotRead} (split : plan.reads = reads ++ rest)
    {entry : Nat} (member : entry ∈ released stack top reads) :
    OwnedBetween stack (top - plan.window) top entry := by
  obtain ⟨read, listed, freed⟩ := List.mem_flatMap.mp member
  have bounds := built.read_offset (split ▸ List.mem_append_left rest listed)
  rw [SlotRead.released] at freed
  split at freed
  · rw [Option.mem_toList, EvalStack.owned?] at freed
    split at freed
    · rename_i slot found
      split at freed
      · rename_i owner
        have positive : 0 < top := Nat.lt_of_lt_of_le bounds.1 (Nat.le_trans bounds.2 fits)
        exact ⟨top - read.offset, slot, Nat.sub_le_sub_left bounds.2 top,
          Nat.sub_lt positive bounds.1, found, owner, Option.some.inj freed⟩
      · cases freed
    · cases freed
  · cases freed

/-- A body was entered in between and gave a result. -/
def Answered (body : NativeBody) (before after : Machine) : Prop :=
  ∃ entry value, after.entered = before.entered ++ [entry] ∧
    (body entry.call entry.objects entry.types).result = .ok value

/-- A run that fails without a result of the body has given up arguments that were read already, and
has changed nothing else of its own. -/
theorem execute_unanswered {declaring : TypeRef} {method : Method} {ordinal : Nat} {plan : Plan}
    {body : NativeBody} {top : StackPtr} {before after : Machine} {fault : Fault}
    (built : build declaring method ordinal = .ok plan)
    (failed : before.run (plan.execute body top) = (.error fault, after))
    (unanswered : ¬ Answered body before after) :
    after.stack = before.stack ∧
      ∃ reached rest, plan.reads = reached ++ rest ∧
        after.heap = before.heap.releaseAll (released before.stack top reached) ∧
        (∀ entry ∈ released before.stack top reached,
          OwnedBetween before.stack (top - plan.window) top entry) ∧
        (after.entered = before.entered ∧ after.objects = before.objects ∧
            after.types = before.types ∧
            (top < plan.window ∧ reached = [] ∧ fault = .stackUnderflow plan.window top ∨
              plan.window ≤ top ∧
                ∃ read others, rest = read :: others ∧ after.read top read = .error fault) ∨
          plan.window ≤ top ∧ rest = [] ∧
            ∃ entry failure, after.entered = before.entered ++ [entry] ∧
              entry.objects.contents = before.objects.contents ∧ entry.types = before.types ∧
              (body entry.call entry.objects entry.types).result = .error failure ∧
              fault = .native (failure.toFault entry.call.method) ∧
              after.objects = (body entry.call entry.objects entry.types).objects ∧
              after.types = (body entry.call entry.objects entry.types).types) := by
  have shape := build_built built
  cases execute_ends failed with
  | underflow short =>
      refine ⟨rfl, [], plan.reads, rfl, rfl, ?_, .inl ⟨rfl, rfl, rfl, .inl ⟨short, rfl, rfl⟩⟩⟩
      intro entry none
      cases none
  | unread fits stops =>
      obtain ⟨reached, read, others, values, split, taken, refused⟩ := stops
      rw [taken.after_eq] at refused ⊢
      exact ⟨rfl, reached, read :: others, split, rfl,
        fun entry => shape.owned_of_released fits split,
        .inl ⟨rfl, rfl, rfl, .inr ⟨fits, read, others, rfl, refused⟩⟩⟩
  | refused enters replied answer =>
      obtain ⟨held, rfl⟩ := enters.met_eq
      subst replied
      have whole : plan.reads = plan.reads ++ [] := (List.append_nil _).symm
      exact ⟨rfl, plan.reads, [], whole, rfl,
        fun entry => shape.owned_of_released enters.fits whole,
        .inr ⟨enters.fits, rfl, ⟨_, _, _⟩, _, rfl, Objects.collect_contents _ _, rfl, answer, rfl,
          rfl, rfl⟩⟩
  | answered enters replied answer concluded =>
      obtain ⟨held, rfl⟩ := enters.met_eq
      subst replied
      exact absurd ⟨_, _, entered_of_conclude concluded, answer⟩ unanswered

def figure : TypeRef := .ofClass "" "Figure"

def move : Method where
  name := "move"
  params := [
    { name := "n", type := .primitive "i32", byRef := true },
    { name := "other", type := figure }]
  result := some figure

def movePlan : Plan :=
  match build figure move 0 with
  | .ok plan => plan
  | .error _ => default

theorem build_move : build figure move 0 = .ok movePlan := rfl

def figures (number : Slot) : Machine where
  stack := { slots := [number, .object 0, .stackReference 0, .object 1] }
  heap := { entries := [{ value := .object 0 }, { value := .object 1 }] }
  objects := { cells := List.replicate 2 { content := .native { typeName := "Figure" } } }

def answerNine : NativeBody := fun call objects types =>
  { result := .ok (call.receiver.getD .null), args := call.args.set 0 (.i32 9), objects, types }

theorem move_unread : ∃ fault after, build figure move 0 = .ok movePlan ∧
    (figures (.double 0)).run (movePlan.execute answerNine 4) = (.error fault, after) ∧
    ¬ Answered answerNine (figures (.double 0)) after ∧
    after.stack = (figures (.double 0)).stack ∧ after.types = (figures (.double 0)).types ∧
    after.heap.size = 1 := by
  have failed : (figures (.double 0)).run (movePlan.execute answerNine 4) =
      (.error (.typeMismatch "i32" "Double slot"), (figures (.double 0)).giveUp [1]) := rfl
  have unanswered :
      ¬ Answered answerNine (figures (.double 0)) ((figures (.double 0)).giveUp [1]) := by
    rintro ⟨entry, value, entered, -⟩
    cases entered
  obtain ⟨stack, reached, rest, -, -, -, ⟨-, -, types, -⟩ | ⟨-, -, entry, failure, entered, -⟩⟩ :=
    execute_unanswered build_move failed unanswered
  · exact ⟨_, _, build_move, failed, unanswered, stack, types, rfl⟩
  · cases entered

end Plan

end NativeBridge
