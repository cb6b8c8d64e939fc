import NativeBridge.Proofs.Calls.Exits
import NativeBridge.Proofs.Calls.Locations

/-!
# Bounds that are relied upon

In four places a plan relies on a bound without a way to report that it does not hold: where an
argument is put in its place, where a heap entry is given up, where a slot of the window is found,
and where the pointer above a pushed result is taken. Here the same plan is carried out with a guard
in each of these places, and a guard that fails stops it with a breach.

* `Machine.owned_inside`: a value that was read from a slot shows that the entry of the slot exists.
* `Guarded.execute_agrees`: the guards of a plan that was built never fail, whatever the machine
  holds.
-/

namespace NativeBridge

/-- A bound that does not hold in the place that relies on it. -/
inductive Breach where
  | argument (index count : Nat)
  | release (index size : Nat)
  | below (offset : Nat) (top : StackPtr)
  | above (index : StackPtr) (capacity : Nat)
  deriving DecidableEq, Repr

abbrev GuardedM := ExceptT Fault (StateT Machine (Except Breach))

namespace Guarded

instance : MonadLift MachineM GuardedM where
  monadLift action := ExceptT.mk fun machine => .ok (machine.run action)

def within (bound : Prop) [Decidable bound] (breach : Breach) : GuardedM Unit :=
  if bound then pure () else throwThe Breach breach

def minus (top : StackPtr) (offset : Nat) : GuardedM StackPtr := do
  within (offset ≤ top) (.below offset top)
  top.minus offset

def plus (index : StackPtr) : GuardedM StackPtr := do
  let capacity := (← get).stack.capacity
  within (index < capacity) (.above index capacity)
  return index.plus 1

def release (index : Nat) : GuardedM Unit := do
  let machine ← get
  within (index < machine.heap.size) (.release index machine.heap.size)
  set { machine with heap := machine.heap.release index }

def free (index : StackPtr) : GuardedM Unit := do
  let slot ← (← get).stack.get index
  if slot.tag = .objectReference then release slot.index

def readParam (top : StackPtr) (step : ParamStep) : GuardedM Value := do
  let index ← minus top step.offset
  let location ← Plan.locate step.byRef index
  let machine ← get
  let value ← machine.load location step.kind step.coercion
  if step.free then free index
  return value

def readParams (top : StackPtr) : List ParamStep → List Value → GuardedM (List Value)
  | [], args => return args
  | step :: rest, args => do
      let value ← readParam top step
      within (step.index < args.length) (.argument step.index args.length)
      readParams top rest (args.set step.index value)

def readReceiver (top : StackPtr) (signature : Signature) (step : ReceiverStep) :
    GuardedM Value := do
  let index ← minus top step.offset
  let location ← Plan.locate step.resolve index
  let machine ← get
  let value ← machine.load location step.kind step.coercion
  if value.isNull then throw (.nullReference ("receiver of " ++ signature.text))
  if step.free then free index
  return value

def writeBack (top : StackPtr) (args held : List Value) : List WriteBack → GuardedM Unit
  | [] => return ()
  | step :: rest => do
      let index ← minus top step.offset
      let location ← Plan.locate true index
      Machine.store location step.kind (args.getD step.index .null)
      modify (Machine.collect held)
      writeBack top args held rest

def pushSlot (top : StackPtr) (slot : Slot) : GuardedM StackPtr := do
  Machine.setSlot top slot
  plus top

def finish (ret : StackPtr) (result : Value) : ReturnStep → GuardedM StackPtr
  | .void => return ret
  | .value kind => do
      let slot ← (← get).objects.encode kind result
      pushSlot ret slot
  | .object unwrapAdapter => do
      let objects := (← get).objects
      let entry ← Machine.pushHeap (if unwrapAdapter then objects.unwrapAdapter result else result)
      pushSlot ret (.object (.ofNat entry))

def execute (plan : Plan) (body : NativeBody) (top : StackPtr) : GuardedM StackPtr := do
  let ret ← top.minus plan.window
  let args ← readParams top plan.params (List.replicate plan.params.length .null)
  let receiver ← plan.receiver.mapM (readReceiver top plan.signature)
  let (result, after) ← Plan.enter body { method := plan.signature, receiver, args }
  let held := result :: receiver.toList ++ after
  modify (Machine.collect held)
  writeBack top after held plan.writeBacks
  finish ret result plan.ret

end Guarded

theorem Heap.inside_of_get {heap : Heap} {index : Nat} {value : Value}
    (got : heap.get index = .ok value) : index < heap.size := by
  obtain ⟨entry, found, -⟩ := get_eq_ok_iff.mp got
  exact (List.getElem?_eq_some_iff.mp found).1

namespace Machine

variable {α β : Type} {machine : Machine}

def runGuarded (machine : Machine) (action : GuardedM α) :
    Except Breach (Except Fault α × Machine) :=
  StateT.run (ExceptT.run action) machine

/-- On a machine, no guard of an action fails, and it does what another one does without guards. -/
def Agrees (machine : Machine) (guarded : GuardedM α) (plain : MachineM α) : Prop :=
  machine.runGuarded guarded = .ok (machine.run plain)

theorem agrees_pure (a : α) : machine.Agrees (pure a) (pure a) := rfl

theorem agrees_get : machine.Agrees get get := rfl

theorem agrees_modify (change : Machine → Machine) :
    machine.Agrees (modify change) (modify change) := rfl

theorem agrees_except (result : Except Fault α) :
    machine.Agrees (liftM result) (liftM result) := rfl

theorem agrees_action (action : MachineM α) : machine.Agrees (liftM action) action := rfl

theorem runGuarded_bind (action : GuardedM α) (next : α → GuardedM β) :
    machine.runGuarded (action >>= next) = match machine.runGuarded action with
      | .ok (.ok a, after) => after.runGuarded (next a)
      | .ok (.error fault, after) => .ok (.error fault, after)
      | .error breach => .error breach := by
  show (StateT.run (ExceptT.run action) machine >>= fun p => _) = _
  rw [runGuarded]
  rcases StateT.run (ExceptT.run action) machine with breach | ⟨_ | a, after⟩ <;> rfl

theorem Agrees.bind {guarded : GuardedM α} {plain : MachineM α} {next : α → GuardedM β}
    {plainNext : α → MachineM β} (agrees : machine.Agrees guarded plain)
    (rest : ∀ a after, machine.run plain = (.ok a, after) →
      after.Agrees (next a) (plainNext a)) :
    machine.Agrees (guarded >>= next) (plain >>= plainNext) := by
  rw [Agrees, runGuarded_bind, agrees, run_bind]
  cases ran : machine.run plain with
  | mk result after =>
      cases result with
      | error fault => rfl
      | ok a => exact rest a after ran

theorem agrees_within {bound : Prop} [Decidable bound] {breach : Breach} (holds : bound)
    {next : Unit → GuardedM α} {plain : MachineM α} (agrees : machine.Agrees (next ()) plain) :
    machine.Agrees (Guarded.within bound breach >>= next) plain := by
  rw [Guarded.within, if_pos holds]
  exact agrees

theorem owned_inside {resolve : Bool} {index : StackPtr} {kind : Kind}
    {coercion : Option Coercion} {value : Value} {handle : Nat}
    (loaded : machine.loadSlot resolve index kind coercion = .ok value)
    (owned : machine.stack.owned? index = some handle) : handle < machine.heap.size := by
  obtain ⟨slot, found⟩ := loadSlot_inside loaded
  obtain ⟨tag, rfl⟩ : slot.tag = .objectReference ∧ slot.index = handle := by
    rw [EvalStack.owned?, EvalStack.get_eq_ok_iff.mp found] at owned
    simpa using owned
  -- A slot that owns an entry is not followed, whether references are to be followed or not.
  have itself : machine.stack.locate resolve index = .ok (.slot index) := by
    cases resolve with
    | false => rfl
    | true => simp [EvalStack.locate, EvalStack.resolve, found, tag, bind, Except.bind, pure,
        Except.pure]
  obtain ⟨location, located, loaded⟩ := bind_eq_ok.mp loaded
  cases itself.symm.trans located
  rw [load_eq, valueAt_of_objectReference found tag] at loaded
  obtain ⟨stored, got, -⟩ := bind_eq_ok.mp loaded
  exact Heap.inside_of_get got

end Machine

namespace Guarded

open Machine (Agrees)

variable {machine : Machine} {top index : StackPtr}

theorem minus_agrees {offset : Nat} (below : offset ≤ top) :
    machine.Agrees (minus top offset) (liftM (top.minus offset)) :=
  Machine.agrees_within below (Machine.agrees_except _)

theorem run_free_eq (machine : Machine) (index : StackPtr) :
    machine.run (Machine.free index) = machine.run (do
      let slot ← (← get).stack.get index
      if slot.tag = .objectReference then
        set { machine with heap := machine.heap.release slot.index }) := by
  simp only [Machine.free, Machine.run_update, Machine.run_bind, Machine.run_get,
    Machine.run_lift]
  cases machine.stack.get index with
  | error fault => rfl
  | ok slot =>
      simp only [bind, Except.bind]
      by_cases owner : slot.tag = .objectReference
      · rw [if_pos owner, if_pos owner]
        rfl
      · rw [if_neg owner, if_neg owner]
        rfl

theorem free_agrees (inside : ∀ handle, machine.stack.owned? index = some handle →
    handle < machine.heap.size) : machine.Agrees (free index) (Machine.free index) := by
  rw [Agrees, run_free_eq]
  refine Machine.agrees_get.bind fun met after got => ?_
  cases got
  refine (Machine.agrees_except _).bind fun slot after ran => ?_
  obtain ⟨found, rfl⟩ := Prod.mk.inj ran
  by_cases owner : slot.tag = .objectReference
  · have owned : machine.stack.owned? index = some slot.index := by
      rw [EvalStack.owned?, EvalStack.get_eq_ok_iff.mp found]
      exact if_pos owner
    rw [if_pos owner, if_pos owner]
    refine Machine.agrees_get.bind fun met after got => ?_
    cases got
    exact Machine.agrees_within (inside slot.index owned) rfl
  · rw [if_neg owner, if_neg owner]
    exact Machine.agrees_pure _

theorem fetch_agrees {resolve : Bool} {kind : Kind} {coercion : Option Coercion} {α : Type}
    {next : Value → GuardedM α} {plain : Value → MachineM α}
    (rest : ∀ value, machine.loadSlot resolve index kind coercion = .ok value →
      machine.Agrees (next value) (plain value)) :
    machine.Agrees
      (do
        let location ← Plan.locate resolve index
        let machine ← get
        let value ← machine.load location kind coercion
        next value)
      (do
        let location ← Plan.locate resolve index
        let machine ← get
        let value ← machine.load location kind coercion
        plain value) := by
  refine (Machine.agrees_action _).bind fun location after ran => ?_
  rw [Plan.run_locate] at ran
  obtain ⟨located, rfl⟩ := Prod.mk.inj ran
  refine Machine.agrees_get.bind fun met after got => ?_
  cases got
  refine (Machine.agrees_except _).bind fun value after ran => ?_
  obtain ⟨loaded, rfl⟩ := Prod.mk.inj ran
  exact rest value (bind_eq_ok.mpr ⟨location, located, loaded⟩)

theorem freeIf_agrees {resolve : Bool} {kind : Kind} {coercion : Option Coercion} {value : Value}
    (loaded : machine.loadSlot resolve index kind coercion = .ok value) {given : Bool} :
    machine.Agrees
      (do
        if given then free index
        return value)
      (do
        if given then Machine.free index
        return value) := by
  cases given with
  | false => exact Machine.agrees_pure value
  | true =>
      refine (free_agrees fun handle owned => Machine.owned_inside loaded owned).bind ?_
      exact fun _ after _ => Machine.agrees_pure value

theorem readParam_agrees {step : ParamStep} (below : step.offset ≤ top) :
    machine.Agrees (readParam top step) (Plan.readParam top step) := by
  refine (minus_agrees below).bind fun index after ran => ?_
  obtain ⟨-, rfl⟩ := Prod.mk.inj ran
  exact fetch_agrees fun value loaded => freeIf_agrees loaded

theorem readParams_agrees {steps : List ParamStep} {args : List Value}
    (below : ∀ step ∈ steps, step.offset ≤ top) (placed : ∀ step ∈ steps, step.index < args.length) :
    machine.Agrees (readParams top steps args) (Plan.readParams top steps args) := by
  induction steps generalizing machine args with
  | nil => exact Machine.agrees_pure args
  | cons step rest ih =>
      refine (readParam_agrees (below step List.mem_cons_self)).bind fun value after _ => ?_
      refine Machine.agrees_within (placed step List.mem_cons_self) ?_
      refine ih (fun other member => below other (List.mem_cons_of_mem _ member)) ?_
      intro other member
      rw [List.length_set]
      exact placed other (List.mem_cons_of_mem _ member)

theorem readReceiver_agrees {signature : Signature} {step : ReceiverStep}
    (below : step.offset ≤ top) :
    machine.Agrees (readReceiver top signature step) (Plan.readReceiver top signature step) := by
  refine (minus_agrees below).bind fun index after ran => ?_
  obtain ⟨-, rfl⟩ := Prod.mk.inj ran
  refine fetch_agrees fun value loaded => ?_
  by_cases null : value.isNull
  · simp only [if_pos null]
    rfl
  · simp only [if_neg null]
    exact freeIf_agrees loaded

theorem receiver_agrees {signature : Signature} {receiver : Option ReceiverStep}
    (below : ∀ step, receiver = some step → step.offset ≤ top) :
    machine.Agrees (receiver.mapM (readReceiver top signature))
      (receiver.mapM (Plan.readReceiver top signature)) := by
  cases receiver with
  | none => exact Machine.agrees_pure none
  | some step =>
      simp only [Option.mapM_some, map_eq_pure_bind]
      refine (readReceiver_agrees (below step rfl)).bind ?_
      exact fun value after _ => Machine.agrees_pure (some value)

theorem writeBack_agrees {args held : List Value} {steps : List WriteBack}
    (below : ∀ step ∈ steps, step.offset ≤ top) :
    machine.Agrees (writeBack top args held steps) (Plan.writeBack top args held steps) := by
  induction steps generalizing machine with
  | nil => exact Machine.agrees_pure ()
  | cons step rest ih =>
      refine (minus_agrees (below step List.mem_cons_self)).bind fun index after _ => ?_
      refine (Machine.agrees_action _).bind fun location after _ => ?_
      refine (Machine.agrees_action _).bind fun _ after _ => ?_
      refine (Machine.agrees_modify _).bind fun _ after _ => ?_
      exact ih fun other member => below other (List.mem_cons_of_mem _ member)

theorem pushSlot_agrees (slot : Slot) :
    machine.Agrees (pushSlot top slot) (Machine.pushSlot top slot) := by
  refine (Machine.agrees_action _).bind fun _ after ran => ?_
  rw [Machine.run_setSlot] at ran
  by_cases inside : top < machine.stack.capacity
  · rw [EvalStack.set_inside inside] at ran
    obtain ⟨-, rfl⟩ := Prod.mk.inj ran
    have inside : top < (machine.stack.slots.set top slot).length := by rwa [List.length_set]
    refine Machine.agrees_get.bind fun met after got => ?_
    cases got
    exact Machine.agrees_within inside (Machine.agrees_pure _)
  · rw [EvalStack.set_outside inside] at ran
    cases ran

theorem finish_agrees (ret : StackPtr) (result : Value) (step : ReturnStep) :
    machine.Agrees (finish ret result step) (Plan.finish ret result step) := by
  cases step with
  | void => exact Machine.agrees_pure ret
  | value kind =>
      refine Machine.agrees_get.bind fun met after _ => ?_
      refine (Machine.agrees_except _).bind fun slot after _ => ?_
      exact pushSlot_agrees slot
  | object unwrapAdapter =>
      refine Machine.agrees_get.bind fun met after _ => ?_
      refine (Machine.agrees_action _).bind fun entry after _ => ?_
      exact pushSlot_agrees _

variable {declaring : TypeRef} {method : Method} {ordinal : Nat} {plan : Plan}

/-- No guard of a plan that was built fails, whatever the machine holds and wherever its stack ends:
a run with guards is a run without them. -/
theorem execute_agrees (built : Plan.build declaring method ordinal = .ok plan) (body : NativeBody)
    (top : StackPtr) (machine : Machine) :
    machine.runGuarded (execute plan body top) = .ok (machine.run (plan.execute body top)) := by
  have shape := Plan.build_built built
  refine (Machine.agrees_except _).bind fun ret after ran => ?_
  obtain ⟨window, rfl⟩ := Prod.mk.inj ran
  obtain ⟨fits, rfl⟩ := StackPtr.minus_ok window
  -- The window fits, and every slot and place that the plan names is inside it.
  have below (read : SlotRead) (member : read ∈ plan.reads) : read.offset ≤ top :=
    Nat.le_trans (shape.read_offset member).2 fits
  have params (step : ParamStep) (member : step ∈ plan.params) : step.offset ≤ top :=
    below step.read (List.mem_append_left _ (List.mem_map_of_mem member))
  have self (step : ReceiverStep) (same : plan.receiver = some step) : step.offset ≤ top :=
    below (step.read plan.signature) (List.mem_append_right _ (by simp [same]))
  have places (step : ParamStep) (member : step ∈ plan.params) :
      step.index < (List.replicate plan.params.length Value.null).length := by
    obtain ⟨index, param, kind, declared, -, rfl⟩ := shape.step_of_mem member
    rw [List.length_replicate, shape.length_params]
    exact (List.getElem?_eq_some_iff.mp declared).1
  have writeBacks (step : WriteBack) (member : step ∈ plan.writeBacks) : step.offset ≤ top := by
    obtain ⟨param, -, -, -, offset⟩ := shape.mem_writeBacks_iff.mp member
    rw [offset]
    exact Nat.le_trans (Nat.sub_le _ _) (Nat.le_trans shape.params_le_window fits)
  refine (readParams_agrees params places).bind fun args after _ => ?_
  refine (receiver_agrees self).bind fun receiver after _ => ?_
  refine (Machine.agrees_action _).bind fun reply after _ => ?_
  refine (Machine.agrees_modify _).bind fun _ after _ => ?_
  refine (writeBack_agrees writeBacks).bind fun _ after _ => ?_
  exact finish_agrees _ _ _

def claimed : Machine :=
  let machine := Plan.figures (.integer 7)
  { machine with stack := { slots := machine.stack.slots.set 1 (.object 1) } }

theorem claimed_agrees : Plan.build Plan.figure Plan.move 0 = .ok Plan.movePlan ∧
    claimed.runGuarded (execute Plan.movePlan Plan.answerNine 4) =
      .ok (.error (.invalidObject 1), claimed.giveUp [1]) :=
  ⟨Plan.build_move, execute_agrees Plan.build_move Plan.answerNine 4 claimed⟩

-- A plan that was not built for its method can fail at a guard.
example : claimed.runGuarded (execute { Plan.movePlan with window := 1 } Plan.answerNine 2) =
    .error (.below 3 2) := rfl

end Guarded

end NativeBridge
