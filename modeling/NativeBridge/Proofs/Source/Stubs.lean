import NativeBridge.Proofs.Calls.Agreement
import NativeBridge.Proofs.Calls.Exits
import NativeBridge.Source.Execution

/-!
# Stubs against plans

A stub converts each value as soon as it has read it, and the body of a plan converts all of them
once it is entered. A failed conversion therefore stops the two at different points, but both fail.

* `run_readLocals`: a stub that gets through its reads has read what the plan reads and converted it
  on objects that have not changed.
* `ofPlan_emitted`: the stub of a plan reads, writes and answers as the plan does.
* `Stub.agrees`: a stub agrees with its plan when the native body does with its arguments what the
  call of the stub does.
-/

namespace NativeBridge.Source

variable {api : NativeApi} {machine : Machine} {top : StackPtr}

/-! ## Reads with conversions -/

def Read.slotRead (read : Read) : SlotRead where
  offset := read.offset
  resolve := read.byRef
  kind := read.kind
  coercion := read.coercion
  free := read.free
  refusal := none

def SelfRead.slotRead (method : Signature) (read : SelfRead) : SlotRead where
  offset := read.offset
  resolve := read.resolve
  kind := read.kind
  coercion := read.coercion
  free := read.free
  refusal := some (.nullReference ("receiver of " ++ method.text))

def takeAll (api : NativeApi) (objects : Objects) : List Read → List Value →
    Except NativeFault Locals
  | read :: reads, value :: values => do
      let data ← read.form.take api objects value
      let rest ← takeAll api objects reads values
      return (read.variableName, data) :: rest
  | _, _ => .ok []

def ReceiverUse.take (api : NativeApi) (objects : Objects) (value : Value) :
    ReceiverUse → Except NativeFault SelfData
  | .borrowed type reference => .ok (.borrowed value type reference)
  | .converted form => do return .converted (← form.take api objects value)

theorem run_takeLoaded (machine : Machine) (form : NativeForm) (value : Value) :
    machine.run (takeLoaded api form value) =
      ((form.take api machine.objects value).mapError .native, machine) := by
  simp only [takeLoaded, Machine.run_bind, Machine.run_get]
  cases form.take api machine.objects value <;> rfl

theorem run_freeThen {α : Type} {index : StackPtr} {slot : Slot}
    (inside : machine.stack.get index = .ok slot) (free : Bool) (next : MachineM α) :
    machine.run (do
      if free then Machine.free index
      next) =
      (machine.giveUp (if free then (machine.stack.owned? index).toList else [])).run next := by
  cases free with
  | false => rfl
  | true => simp only [if_true, Machine.run_bind, Machine.run_free inside]

theorem run_read (machine : Machine) (top : StackPtr) (read : Read) :
    machine.run (read.run api top) = match machine.read top read.slotRead with
      | .ok value => match read.form.take api machine.objects value with
          | .ok data =>
              (.ok (read.variableName, data),
                machine.giveUp (read.slotRead.released machine.stack top))
          | .error fault =>
              (.error (.native fault), machine.giveUp (read.slotRead.released machine.stack top))
      | .error fault => (.error fault, machine) := by
  rw [Read.run, Machine.run_bind, Machine.run_lift]
  simp only [Machine.read, Read.slotRead]
  cases below : top.minus read.offset with
  | error fault => rfl
  | ok index =>
      obtain ⟨-, rfl⟩ := StackPtr.minus_ok below
      simp only [Plan.run_fetch]
      simp only [bind, Except.bind]
      cases loaded : machine.loadSlot read.byRef (top - read.offset) read.kind read.coercion with
      | error fault => rfl
      | ok value =>
          obtain ⟨slot, inside⟩ := Machine.loadSlot_inside loaded
          have freed := run_freeThen inside read.free
            (do return (read.variableName, ← takeLoaded api read.form value))
          refine freed.trans ?_
          rw [Machine.run_bind, run_takeLoaded]
          have same (released : List Nat) :
              (machine.giveUp released).objects = machine.objects := rfl
          simp only [same]
          cases read.form.take api machine.objects value <;> rfl

theorem run_readLocals (machine : Machine) (top : StackPtr) (reads : List Read) (locals : Locals) :
    (∃ values entries after, Reads top machine (reads.map (·.slotRead)) values after ∧
      takeAll api machine.objects reads values = .ok entries ∧
      machine.run (readLocals api top reads locals) = (.ok (locals ++ entries), after)) ∨
    (∃ fault after, machine.run (readLocals api top reads locals) = (.error fault, after)) ∧
      ∀ values after, Reads top machine (reads.map (·.slotRead)) values after →
        ∃ fault, takeAll api machine.objects reads values = .error fault := by
  induction reads generalizing machine locals with
  | nil => exact .inl ⟨[], [], machine, .nil machine, rfl, by rw [List.append_nil]; rfl⟩
  | cons read rest ih =>
      simp only [readLocals, Machine.run_bind, run_read, List.map_cons]
      cases taken : machine.read top read.slotRead with
      | error fault =>
          refine .inr ⟨⟨fault, machine, rfl⟩, ?_⟩
          intro values after reads
          cases reads with
          | cons value _ => cases taken.symm.trans value
      | ok value =>
          simp only
          cases converted : read.form.take api machine.objects value with
          | error fault =>
              refine .inr ⟨⟨.native fault, _, rfl⟩, ?_⟩
              intro values after reads
              cases reads with
              | cons same _ =>
                  obtain rfl := Except.ok.inj (taken.symm.trans same)
                  refine ⟨fault, ?_⟩
                  rw [takeAll, converted]
                  rfl
          | ok data =>
              simp only
              rcases ih (machine.giveUp (read.slotRead.released machine.stack top))
                  (locals ++ [(read.variableName, data)]) with
                ⟨values, entries, after, others, took, ran⟩ | ⟨stops, fails⟩
              · refine .inl ⟨value :: values, (read.variableName, data) :: entries, after,
                  .cons taken others, ?_, ?_⟩
                · have took : takeAll api machine.objects rest values = .ok entries := took
                  rw [takeAll, converted]
                  simp only [bind, Except.bind, took]
                  rfl
                · rw [ran, List.append_assoc]
                  rfl
              · refine .inr ⟨stops, ?_⟩
                intro values after reads
                cases reads with
                | cons same others =>
                    obtain rfl := Except.ok.inj (taken.symm.trans same)
                    obtain ⟨fault, failed⟩ := fails _ _ others
                    refine ⟨fault, ?_⟩
                    have failed : takeAll api machine.objects rest _ = .error fault := failed
                    rw [takeAll, converted]
                    simp only [bind, Except.bind, failed]

theorem run_self (machine : Machine) (top : StackPtr) (method : Signature) (read : SelfRead) :
    machine.run (read.run api top method) = match machine.read top (read.slotRead method) with
      | .ok value =>
          ((read.use.take api machine.objects value).mapError .native,
            machine.giveUp ((read.slotRead method).released machine.stack top))
      | .error fault => (.error fault, machine) := by
  rw [SelfRead.run, Machine.run_bind, Machine.run_lift]
  simp only [Machine.read, SelfRead.slotRead]
  cases below : top.minus read.offset with
  | error fault => rfl
  | ok index =>
      obtain ⟨-, rfl⟩ := StackPtr.minus_ok below
      simp only [Plan.run_fetch]
      simp only [bind, Except.bind]
      cases loaded : machine.loadSlot read.resolve (top - read.offset) read.kind read.coercion with
      | error fault => rfl
      | ok value =>
          obtain ⟨slot, inside⟩ := Machine.loadSlot_inside loaded
          simp only
          by_cases null : value.isNull
          · rw [if_pos null, if_pos null]
            rfl
          · rw [if_neg null, if_neg null]
            have freed := run_freeThen (α := SelfData) inside read.free
              (match read.use with
                | .borrowed type reference => return .borrowed value type reference
                | .converted form => return .converted (← takeLoaded api form value))
            refine freed.trans ?_
            cases read.use with
            | borrowed type reference => rfl
            | converted form =>
                simp only [ReceiverUse.take]
                rw [Machine.run_bind, run_takeLoaded]
                have same (released : List Nat) :
                    (machine.giveUp released).objects = machine.objects := rfl
                rw [same]
                cases form.take api machine.objects value <;> rfl

/-! ## Stubs of plans -/

structure Emitted (plan : Plan) (stub : Stub) : Prop where
  window : stub.window = plan.window
  reads : stub.reads.map (·.slotRead) = plan.params.map (·.read)
  receiver : plan.receiver = none ∧ stub.receiver = none ∨
    ∃ step use, plan.receiver = some step ∧ stub.receiver = some (SelfRead.ofStep step use)
  writes : List.Forall₂ (fun write step => write.offset = step.offset ∧ write.kind = step.kind)
    stub.writes plan.writeBacks
  ret : stub.ret = plan.ret

theorem Read.slotRead_ofStep [Grammar] {step : ParamStep} {read : Read}
    (made : Read.ofStep step = .ok read) :
    read.slotRead = step.read := by
  obtain ⟨form, -, same⟩ := bind_eq_ok.mp made
  obtain rfl := pure_eq_ok.mp same
  rfl

theorem Write.ofStep_eq_ok [Grammar] {plan : Plan} {step : WriteBack} {write : Write}
    (made : Write.ofStep plan step = .ok write) :
    write.offset = step.offset ∧ write.kind = step.kind := by
  rw [Write.ofStep] at made
  split at made
  · obtain ⟨form, -, same⟩ := bind_eq_ok.mp made
    obtain rfl := pure_eq_ok.mp same
    exact ⟨rfl, rfl⟩
  · cases made

theorem SelfRead.ofSteps_eq_ok [Grammar] {plan : Plan} {receiver : Option ReceiverStep}
    {read : Option SelfRead} (made : (receiver.mapM fun step => do
      return SelfRead.ofStep step (← SelfRead.useOf plan step.type)) = .ok read) :
    receiver = none ∧ read = none ∨
      ∃ step use, receiver = some step ∧ read = some (SelfRead.ofStep step use) := by
  cases receiver with
  | none =>
      obtain rfl := pure_eq_ok.mp made
      exact .inl ⟨rfl, rfl⟩
  | some step =>
      obtain ⟨_, same, rfl⟩ := map_eq_ok.mp made
      obtain ⟨use, -, same⟩ := bind_eq_ok.mp same
      obtain rfl := pure_eq_ok.mp same
      exact .inr ⟨step, use, rfl, rfl⟩

theorem ofPlan_emitted [Grammar] {plan : Plan} {stub : Stub} (made : Stub.ofPlan plan = .ok stub) :
    Emitted plan stub := by
  simp only [Stub.ofPlan, bind_eq_ok, mapM_eq_ok] at made
  obtain ⟨name, -, reads, read, made⟩ := made
  have reads : reads.map (·.slotRead) = plan.params.map (·.read) := by
    rw [← List.forall₂_eq_eq_eq, List.forall₂_map_left_iff, List.forall₂_map_right_iff]
    exact read.flip.imp fun _ _ made => Read.slotRead_ofStep made
  split at made
  -- An interface is refused before anything else of the receiver is looked at.
  on_goal 1 => split at made
  on_goal 1 => cases made
  all_goals
    simp only [bind_eq_ok] at made
    obtain ⟨owner, -, call, -, receiver, received, made⟩ := made
    have receiver := SelfRead.ofSteps_eq_ok received
    split at made
    all_goals
      simp only [bind_eq_ok, pure_eq_ok, mapM_eq_ok] at made
      obtain ⟨result, -, writes, wrote, rfl⟩ := made
      have writes := wrote.flip.imp fun _ _ made => Write.ofStep_eq_ok made
      exact ⟨rfl, reads, receiver, writes, rfl⟩

def Stub.takeSelf (api : NativeApi) (stub : Stub) (objects : Objects) (receiver : Option Value) :
    Except NativeFault SelfData :=
  match stub.receiver, receiver with
  | some read, some value => read.use.take api objects value
  | _, _ => .ok .none

def Stub.outcome (api : NativeApi) (stub : Stub) (objects : Objects) (values : List Value)
    (receiver : Option Value) : Except NativeFailure (HostData × Locals × Objects) := do
  let locals ← (takeAll api objects stub.reads values).mapError .fault
  let self ← (stub.takeSelf api objects receiver).mapError .fault
  stub.call.run api objects locals self

theorem Stub.takeSelf_none (api : NativeApi) (stub : Stub) (objects : Objects) :
    stub.takeSelf api objects none = .ok .none := by
  cases receiver : stub.receiver <;> simp [takeSelf, receiver]

theorem Stub.takeSelf_some {stub : Stub} {read : SelfRead} (receiver : stub.receiver = some read)
    (objects : Objects) (value : Value) :
    stub.takeSelf api objects (some value) = read.use.take api objects value := by
  simp only [takeSelf, receiver]

section Outcomes

variable {stub : Stub} {call : Call} {objects : Objects} {values : List Value}
  {receiver : Option Value} {locals : Locals} {value : Value} {type : CodeType} {reference : String}
  {payload : Payload} {reply : HostReply}

theorem outcome_called {self : SelfData}
    (taken : takeAll api objects stub.reads values = .ok locals)
    (held : stub.takeSelf api objects receiver = .ok self) :
    stub.outcome api objects values receiver = stub.call.run api objects locals self := by
  rw [Stub.outcome, taken, held]
  rfl

theorem outcome_untaken {fault : NativeFault}
    (failed : takeAll api objects stub.reads values = .error fault) (receiver : Option Value) :
    stub.outcome api objects values receiver = .error (.fault fault) := by
  rw [Stub.outcome, failed]
  rfl

theorem run_static (performed : api.perform (call.host locals (.value .null)) = .ok reply) :
    call.run api objects locals .none =
      .ok (reply.result, locals.takeBack (call.args.zip reply.args), objects) := by
  rw [Call.run]
  simp only [pure_bind, performed]
  rfl

theorem run_borrowed (borrowed : borrow api objects value type reference = .ok payload)
    (performed : api.perform (call.host locals (.payload payload)) = .ok reply)
    (unlent : call.args = []) :
    call.run api objects locals (.borrowed value type reference) =
      .ok (reply.result, locals, giveBack objects value reply.self) := by
  rw [Call.run]
  simp only [borrowed, pure_bind, performed, unlent]
  rfl

theorem run_unborrowed {fault : NativeFault}
    (failed : borrow api objects value type reference = .error fault) :
    call.run api objects locals (.borrowed value type reference) = .error (.fault fault) := by
  rw [Call.run]
  simp only [failed]
  rfl

theorem run_unperformed {failure : NativeFailure}
    (borrowed : borrow api objects value type reference = .ok payload)
    (failed : api.perform (call.host locals (.payload payload)) = .error failure) :
    call.run api objects locals (.borrowed value type reference) = .error failure := by
  rw [Call.run]
  simp only [borrowed, pure_bind, failed]
  rfl

end Outcomes

def Restores (args : List Value) (locals : Locals) (write : Write) (step : WriteBack) : Prop :=
  (args.getD step.index .null).objectId? = none ∧
    ∀ objects, write.form.give objects (locals.get write.variableName) =
      (args.getD step.index .null, objects)

/-- A reply of a body that is as good as the outcome of the call of a stub. A stub writes no
static. -/
inductive Matches (plan : Plan) (stub : Stub) (types : TypeTable) (reply : NativeReply) :
    Except NativeFailure (HostData × Locals × Objects) → Prop where
  | fails {failure other : NativeFailure} : reply.result = .error failure →
      Matches plan stub types reply (.error other)
  | answers {value : Value} {result : HostData} {locals : Locals} {after : Objects} :
      reply.result = .ok value →
      (∀ pair ∈ stub.writes.zip plan.writeBacks, Restores reply.args locals pair.1 pair.2) →
      (∀ objects, (stub.result.getD .unit).give objects result = (value, objects)) →
      reply.objects.contents = after.contents → reply.types = types →
      (plan.ret = .object true → value.objectId? = none) →
      Matches plan stub types reply (.ok (result, locals, after))
  | boxes {value : Value} {result : HostData} {locals : Locals} {after final : Objects} :
      reply.result = .ok value → plan.writeBacks = [] → plan.ret = .object false →
      (stub.result.getD .unit).give after result = (value, final) →
      reply.objects.contents = final.contents → reply.types = types →
      Matches plan stub types reply (.ok (result, locals, after))

/-- A body does with the arguments of a call what the stub does with the values that it reads. -/
def Carries (api : NativeApi) (plan : Plan) (stub : Stub) (body : NativeBody) : Prop :=
  ∀ (met objects : Objects) (types : TypeTable) (values : List Value) (receiver : Option Value),
    met.contents = objects.contents → values.length = plan.params.length →
    receiver.isSome = plan.receiver.isSome →
    Matches plan stub types (body (plan.callWith values receiver) met types)
      (stub.outcome api objects values receiver)

variable {other : Machine}

theorem run_giveValue (machine : Machine) (form : NativeForm) (data : HostData) :
    machine.run (giveValue form data) = (.ok (form.give machine.objects data).1,
      { machine with objects := (form.give machine.objects data).2 }) := rfl

theorem agree_writes {args held : List Value} {locals : Locals} {writes : List Write}
    {steps : List WriteBack} (same : machine.Same other)
    (pairs : List.Forall₂ (fun write step => write.offset = step.offset ∧ write.kind = step.kind)
      writes steps)
    (restores : ∀ pair ∈ writes.zip steps, Restores args locals pair.1 pair.2) :
    Agree (machine.run (Plan.writeBack top args held steps))
      (other.run (writeLocals top locals writes)) := by
  induction pairs generalizing machine other with
  | nil => exact .ok same
  | @cons write step writes steps alike _ ih =>
      obtain ⟨plain, gives⟩ := restores (write, step) List.mem_cons_self
      rw [Plan.writeBack, writeLocals, alike.1, alike.2]
      refine Agree.bind (agree_lift same _) ?_
      intro index middle middle' same
      refine Agree.bind (agree_locate same true index) ?_
      intro location middle middle' same
      rw [Machine.run_bind middle', run_giveValue, gives]
      refine Agree.bind (agree_store same location step.kind plain) ?_
      intro done middle middle' same
      rw [Machine.run_bind, Machine.run_modify]
      exact ih (same.collect held) fun pair member => restores pair (List.mem_cons_of_mem _ member)

theorem run_finishStub (machine : Machine) (ret : StackPtr) (form : Option NativeForm)
    (result : HostData) {step : ReturnStep} (some : step ≠ .void) :
    machine.run (finishStub ret form result step) =
      ({ machine with
        objects := ((form.getD .unit).give machine.objects result).2 } : Machine).run
        (Plan.finish ret ((form.getD .unit).give machine.objects result).1 step) := by
  cases step with
  | void => exact absurd rfl some
  | _ => rfl

theorem agree_finishStub {ret : StackPtr} {value : Value} {step : ReturnStep}
    {form : Option NativeForm} {result : HostData} (same : machine.Same other)
    (gives : ∀ objects, (form.getD .unit).give objects result = (value, objects))
    (plain : step = .object true → value.objectId? = none) :
    Agree (machine.run (Plan.finish ret value step))
      (other.run (finishStub ret form result step)) := by
  by_cases void : step = .void
  · subst void
    exact .ok same
  · rw [run_finishStub _ _ _ _ void, gives]
    exact agree_finish same ret plain

/-! ## The call -/

theorem run_guarded (machine : Machine) (call : Call) (method : Signature) (locals : Locals)
    (self : SelfData) :
    machine.run (guarded api call method locals self) =
      match call.run api machine.objects locals self with
      | .ok (result, locals, objects) => (.ok (result, locals), { machine with objects })
      | .error failure => (.error (.native (failure.toFault method)), machine) := by
  simp only [guarded, Machine.run_bind, Machine.run_get]
  cases call.run api machine.objects locals self with
  | error failure => rfl
  | ok reply => rfl

def Stub.conclude (stub : Stub) (top ret : StackPtr) (result : HostData) (locals : Locals) :
    MachineM StackPtr := do
  writeLocals top locals stub.writes
  finishStub ret stub.result result stub.ret

def Stub.proceed (stub : Stub) (machine : Machine) (top ret : StackPtr) (method : Signature) :
    Except NativeFailure (HostData × Locals × Objects) → Except Fault StackPtr × Machine
  | .ok (result, locals, objects) =>
      ({ machine with objects } : Machine).run (stub.conclude top ret result locals)
  | .error failure => (.error (.native (failure.toFault method)), machine)

theorem agree_perform (machine : Machine) {plan : Plan} {stub : Stub} {body : NativeBody}
    (emitted : Emitted plan stub) {call : NativeCall}
    {outcome : Except NativeFailure (HostData × Locals × Objects)}
    (good : ∀ met, met.contents = machine.objects.contents →
      Matches plan stub machine.types (body call met machine.types) outcome)
    (top ret : StackPtr) (method : Signature) :
    Agree (machine.run (plan.perform body top ret call))
      (stub.proceed machine top ret method outcome) := by
  have good := good (machine.collect (call.receiver.toList ++ call.args)).objects
    (Objects.collect_contents _ _)
  rw [Plan.perform, Machine.run_bind, Plan.run_enter]
  simp only [Machine.types_collect]
  cases good with
  | fails failed =>
      rw [failed]
      exact .error
  | answers answer restores gives contents statics plain =>
      rw [answer]
      simp only [Machine.run_bind _ (modify _), Machine.run_modify, Plan.conclude, Stub.proceed,
        Stub.conclude]
      refine Agree.bind (agree_writes (Machine.Same.collect ?_ _) emitted.writes restores) ?_
      · exact ⟨rfl, rfl, statics, contents⟩
      · intro done middle middle' same
        rw [emitted.ret]
        exact agree_finishStub same gives plain
  | boxes answer nothing object gives contents statics =>
      rw [answer]
      -- The object is made after the call, where the plan has nothing to write back.
      have unwritten : stub.writes = [] :=
        List.forall₂_nil_right_iff.mp (nothing ▸ emitted.writes)
      have notVoid : ReturnStep.object false ≠ .void := ReturnStep.noConfusion
      have pushes : stub.ret = .object false := emitted.ret.trans object
      simp only [Machine.run_bind _ (modify _), Machine.run_modify, Plan.conclude, Stub.proceed,
        Stub.conclude, nothing, unwritten, Plan.writeBack, writeLocals, pure_bind, object, pushes]
      rw [run_finishStub _ _ _ _ notVoid, gives]
      refine agree_finish (Machine.Same.collect ?_ _) ret ?_
      · exact ⟨rfl, rfl, statics, contents⟩
      · intro boxed
        cases boxed

/-! ## Agreement -/

theorem read_refused (machine : Machine) (top : StackPtr) (read : SlotRead) (fault other : Fault) :
    (∃ value, machine.read top { read with refusal := some fault } = .ok value ∧
      machine.read top { read with refusal := some other } = .ok value) ∨
    (∃ failure, machine.read top { read with refusal := some fault } = .error failure) ∧
      ∃ failure, machine.read top { read with refusal := some other } = .error failure := by
  simp only [Machine.read]
  cases top.minus read.offset with
  | error failure => exact .inr ⟨⟨_, rfl⟩, _, rfl⟩
  | ok index =>
      simp only [bind, Except.bind]
      cases machine.loadSlot read.resolve index read.kind read.coercion with
      | error failure => exact .inr ⟨⟨_, rfl⟩, _, rfl⟩
      | ok value =>
          simp only
          by_cases null : value.isNull
          · rw [if_pos null, if_pos null]
            exact .inr ⟨⟨_, rfl⟩, _, rfl⟩
          · rw [if_neg null, if_neg null]
            exact .inl ⟨value, rfl, rfl⟩

theorem run_called (machine : Machine) (stub : Stub) (top ret : StackPtr) (method : Signature)
    (locals : Locals) (self : SelfData) :
    machine.run (do
      let (result, locals) ← guarded api stub.call method locals self
      stub.conclude top ret result locals) =
      stub.proceed machine top ret method (stub.call.run api machine.objects locals self) := by
  rw [Machine.run_bind, run_guarded]
  cases stub.call.run api machine.objects locals self <;> rfl

def Stub.perform (api : NativeApi) (stub : Stub) (top ret : StackPtr) (method : Signature)
    (locals : Locals) : MachineM StackPtr := do
  let self ← match stub.receiver with
    | some read => read.run api top method
    | none => pure .none
  let (result, locals) ← guarded api stub.call method locals self
  stub.conclude top ret result locals

theorem run_perform_none {stub : Stub} (receiver : stub.receiver = none) (machine : Machine)
    (top ret : StackPtr) (method : Signature) (locals : Locals) :
    machine.run (stub.perform api top ret method locals) =
      stub.proceed machine top ret method (stub.call.run api machine.objects locals .none) := by
  rw [Stub.perform, receiver]
  exact run_called machine stub top ret method locals .none

theorem run_perform_some {stub : Stub} {read : SelfRead} (receiver : stub.receiver = some read)
    (machine : Machine) (top ret : StackPtr) (method : Signature) (locals : Locals) :
    machine.run (stub.perform api top ret method locals) =
      match machine.run (read.run api top method) with
      | (.ok self, after) =>
          stub.proceed after top ret method (stub.call.run api after.objects locals self)
      | (.error fault, after) => (.error fault, after) := by
  rw [Stub.perform, receiver]
  refine (Machine.run_bind machine (read.run api top method) _).trans ?_
  rcases machine.run (read.run api top method) with ⟨_ | self, after⟩
  · rfl
  · exact run_called after stub top ret method locals self

section Agreement

variable {plan : Plan} {stub : Stub} {body : NativeBody} {values : List Value}
  {entries : Except NativeFault Locals}

def Stub.converted (api : NativeApi) (stub : Stub) (machine : Machine) (top ret : StackPtr)
    (method : Signature) : Except NativeFault Locals → Except Fault StackPtr × Machine
  | .ok locals => machine.run (stub.perform api top ret method locals)
  | .error fault => (.error (.native fault), machine)

theorem agree_received (machine : Machine) (emitted : Emitted plan stub)
    (carries : Carries api plan stub body) (length : values.length = plan.params.length)
    (taken : takeAll api machine.objects stub.reads values = entries) (top ret : StackPtr)
    (method : Signature) :
    Agree (machine.run (do
        let receiver ← plan.receiver.mapM (Plan.readReceiver top plan.signature)
        plan.perform body top ret (plan.callWith values receiver)))
      (stub.converted api machine top ret method entries) := by
  rcases emitted.receiver with ⟨none, none'⟩ | ⟨step, use, some, some'⟩
  · have agree := agree_perform machine emitted
      (fun met same => carries met machine.objects machine.types values .none same length
        (congrArg Option.isSome none.symm)) top ret method
    rw [Stub.outcome, taken, Stub.takeSelf_none] at agree
    rw [none]
    cases entries with
    | error fault => exact agree.of_failed
    | ok locals =>
        rw [Stub.converted, run_perform_none none']
        exact agree
  · rw [some, Option.mapM_some, Machine.run_bind, Machine.run_map, Plan.run_readReceiver]
    have reads := read_refused machine top (step.read plan.signature)
      (.nullReference ("receiver of " ++ plan.signature.text))
      (.nullReference ("receiver of " ++ method.text))
    rcases reads with ⟨value, read, read'⟩ | ⟨⟨fault, failed⟩, fault', failed'⟩
    · have read : machine.read top (step.read plan.signature) = .ok value := read
      have read' : machine.read top ((SelfRead.ofStep step use).slotRead method) = .ok value :=
        read'
      rw [read]
      have agree := agree_perform
        (machine.giveUp ((step.read plan.signature).released machine.stack top)) emitted
        (fun met same => carries met machine.objects machine.types values (.some value) same length
          (congrArg Option.isSome some.symm)) top ret method
      rw [Stub.outcome, taken, Stub.takeSelf_some some'] at agree
      cases entries with
      | error fault => exact agree.of_failed
      | ok locals =>
          rw [Stub.converted, run_perform_some some', run_self, read']
          simp only
          cases converted : (SelfRead.ofStep step use).use.take api machine.objects value with
          | error fault =>
              rw [converted] at agree
              exact agree.of_failed
          | ok self =>
              rw [converted] at agree
              exact agree
    · have failed : machine.read top (step.read plan.signature) = .error fault := failed
      have failed' : machine.read top ((SelfRead.ofStep step use).slotRead method) =
          .error fault' := failed'
      rw [failed]
      cases entries with
      | error fault => exact .error
      | ok locals =>
          rw [Stub.converted, run_perform_some some', run_self, failed']
          exact .error

end Agreement

theorem Stub.agrees {plan : Plan} {stub : Stub} {body : NativeBody} (emitted : Emitted plan stub)
    (carries : Carries api plan stub body) (before : Machine) (top : StackPtr)
    (method : Signature) :
    Agree (before.run (plan.execute body top)) (before.run (stub.run api top method)) := by
  rw [Plan.execute, Stub.run, emitted.window]
  rw [Machine.run_bind, Machine.run_bind, Machine.run_lift]
  cases top.minus plan.window with
  | error fault => exact .error
  | ok ret =>
      simp only
      rw [Machine.run_bind, Machine.run_bind before (readLocals api top stub.reads [])]
      have reads := emitted.reads
      rcases Plan.run_readParams before top plan.params
          (List.replicate plan.params.length .null) with
        ⟨values, middle, params, took⟩ | ⟨fault, stopped, failed, stops⟩
      · have length : values.length = plan.params.length := by
          rw [params.length_eq, List.length_map]
        have unchanged := params.after_eq
        subst unchanged
        rw [took]
        rcases run_readLocals before top stub.reads [] with
          ⟨others, entries, after, same, taken, ran⟩ | ⟨⟨fault, stopped, stops⟩, fails⟩
        · rw [reads] at same
          obtain ⟨rfl, rfl⟩ := params.unique same
          rw [ran]
          exact agree_received (before.giveUp _) emitted carries length taken top ret method
        · obtain ⟨fault, failed⟩ := fails values _ (reads ▸ params)
          rw [stops]
          exact (agree_received (before.giveUp _) emitted carries length failed top ret
            method).of_failed
      · rw [stops]
        rcases run_readLocals before top stub.reads [] with
          ⟨values, entries, after, taken, -, -⟩ | ⟨⟨fault, stopped, stops⟩, -⟩
        · exact absurd failed (reads ▸ taken).not_fails
        · rw [stops]
          exact .error

end NativeBridge.Source
