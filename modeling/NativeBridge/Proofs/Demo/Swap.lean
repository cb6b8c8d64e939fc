import NativeBridge.Proofs.Calls.Exchange
import NativeBridge.Proofs.Demo.TableRuns

/-!
# The exchange of the demo

The method `Swap` takes two numbers by reference. Its stub reads both, lets them change places and
writes them back, the second argument first.

* `run_numberParam`: a parameter is read exactly if its slot reaches a number of 64 bits.
* `run_writeLocals_cons`: each number is written where its slot leads by then.
* `swaps`: a call succeeds exactly if both arguments reach a number. Then the numbers have changed
  places, and nothing else has changed.
-/

namespace NativeBridge.Demo

open Source

/-! ## Parameters -/

/-- The slot at an offset below the top leads to a location that holds a number with these bits. -/
def Reaches (machine : Machine) (top : StackPtr) (offset : Nat) (location : Location)
    (bits : UInt64) : Prop :=
  offset ≤ top ∧ machine.Leads (top - offset) location .float64 (.f64 bits)

section Reads

variable {machine : Machine} {top : StackPtr} {offset : Nat} {location : Location} {bits : UInt64}

def numberParam (variableName : String) (offset : Nat) : Read :=
  param variableName offset .float64 (.number .float64) true none

theorem read_numberParam_eq_ok_iff (name : String) {value : Value} :
    machine.read top (numberParam name offset).slotRead = .ok value ↔
      offset ≤ top ∧ ∃ location, machine.Leads (top - offset) location .float64 value := by
  have steps : machine.read top (numberParam name offset).slotRead =
      top.minus offset >>= fun index => machine.loadSlot true index .float64 none >>= pure := rfl
  simp only [steps, bind_pure, bind_eq_ok, Machine.loadSlot_eq_ok_iff]
  constructor
  · rintro ⟨index, below, leads⟩
    obtain ⟨inside, rfl⟩ := StackPtr.minus_ok below
    exact ⟨inside, leads⟩
  · rintro ⟨inside, leads⟩
    exact ⟨top - offset, if_pos inside, leads⟩

theorem run_numberParam (reached : Reaches machine top offset location bits) (name : String) :
    machine.run ((numberParam name offset).run api top) =
      (.ok (name, .value (.f64 bits)), machine) := by
  have read := (read_numberParam_eq_ok_iff name).mpr ⟨reached.1, location, reached.2⟩
  rw [run_read, read]
  rfl

theorem run_numberParam_unreached (unreached : ∀ location bits,
    ¬ Reaches machine top offset location bits) (name : String) :
    ∃ fault, machine.run ((numberParam name offset).run api top) = (.error fault, machine) := by
  rw [run_read]
  cases read : machine.read top (numberParam name offset).slotRead with
  | error fault => exact ⟨fault, rfl⟩
  | ok value =>
      cases value with
      | f64 bits =>
          obtain ⟨inside, location, leads⟩ := (read_numberParam_eq_ok_iff name).mp read
          exact absurd ⟨inside, leads⟩ (unreached location bits)
      | _ => exact ⟨_, rfl⟩

end Reads

/-! ## Write-backs -/

def numberWrite (variableName : String) (offset : Nat) : Write :=
  { offset, kind := .float64, variableName, form := .number .float64 }

theorem run_writeLocals_cons {machine after : Machine} {top : StackPtr} {offset : Nat}
    {location : Location} {name : String} {value : Value} {locals : Locals} (below : offset ≤ top)
    (held : locals.get name = .value value)
    (led : machine.stack.resolve (top - offset) = .ok location)
    (stored : Machine.Stored .float64 value machine location after) (rest : List Write) :
    machine.run (writeLocals top locals (numberWrite name offset :: rest)) =
      after.run (writeLocals top locals rest) := by
  have index : top.minus offset = .ok (top - offset) := if_pos below
  have located : machine.stack.locate true (top - offset) = .ok location := led
  have gives : (NativeForm.number .float64).give machine.objects (locals.get name) =
      (value, machine.objects) := by rw [held]; rfl
  simp only [writeLocals, numberWrite, Machine.run_bind, Machine.run_lift, index, Plan.run_locate,
    located, run_giveValue, gives, Machine.run_of_stored stored]

/-! ## The stub -/

section Stub

variable {machine : Machine} {top : StackPtr} {location other : Location} {x y : UInt64}

theorem run_swapStub (first : Reaches machine top 2 location x)
    (second : Reaches machine top 1 other y) (method : Signature) :
    machine.run (swapStub.run api top method) =
      machine.run (swapStub.conclude top (top - 2) (.value .null)
        [("b_1", .value (.f64 x)), ("a_0", .value (.f64 y))]) := by
  have below : top.minus 2 = .ok (top - 2) := if_pos first.1
  have reads : machine.run (readLocals api top swapStub.reads []) =
      (.ok [("b_1", .value (.f64 y)), ("a_0", .value (.f64 x))], machine) := by
    have listed : swapStub.reads = [numberParam "b_1" 1, numberParam "a_0" 2] := rfl
    simp only [listed, readLocals, Machine.run_bind, run_numberParam second, run_numberParam first]
    rfl
  have window : swapStub.window = 2 := rfl
  have receiver : swapStub.receiver = none := rfl
  rw [Stub.run, Machine.run_bind, Machine.run_lift, window, below]
  simp only
  rw [Machine.run_bind, reads]
  refine (run_perform_none receiver machine top (top - 2) method _).trans ?_
  rw [run_swapCall]
  rfl

theorem run_swapStub_unreached (unreached :
      (∀ location bits, ¬ Reaches machine top 2 location bits) ∨
        ∀ location bits, ¬ Reaches machine top 1 location bits) (method : Signature) :
    ∃ fault, machine.run (swapStub.run api top method) = (.error fault, machine) := by
  have listed : swapStub.reads = [numberParam "b_1" 1, numberParam "a_0" 2] := rfl
  rw [Stub.run, Machine.run_bind, Machine.run_lift]
  cases top.minus swapStub.window with
  | error fault => exact ⟨fault, rfl⟩
  | ok ret =>
      simp only
      rw [Machine.run_bind, listed]
      simp only [readLocals, Machine.run_bind]
      by_cases second : ∃ location bits, Reaches machine top 1 location bits
      · obtain ⟨location, bits, second⟩ := second
        have first := unreached.resolve_right fun none => none location bits second
        obtain ⟨fault, failed⟩ := run_numberParam_unreached first "a_0"
        simp only [run_numberParam second, failed]
        exact ⟨fault, rfl⟩
      · push Not at second
        obtain ⟨fault, failed⟩ := run_numberParam_unreached second "b_1"
        simp only [failed]
        exact ⟨fault, rfl⟩

end Stub

/-- A call of `Swap` succeeds exactly if both arguments reach numbers of 64 bits. Then each location
holds the bits of the other one, the top is two slots lower, and nothing else has changed. A call
that fails changes nothing. -/
theorem swaps {host session : Session} (begun : host.initializeDemo = .ok session)
    (before : Machine) (top : StackPtr) :
    (∀ location other x y, Reaches before top 2 location x → Reaches before top 1 other y →
      ∃ after, before.run (session.call swapPlan.signature top) = (.ok (top - 2), after) ∧
        Machine.Exchanged (top - 2) (top - 1) location other .float64 (.f64 x) (.f64 y)
          before after) ∧
      ((∀ location x, ¬ Reaches before top 2 location x) ∨
          (∀ other y, ¬ Reaches before top 1 other y) →
        ∃ fault, before.run (session.call swapPlan.signature top) = (.error fault, before)) := by
  have signature : swapPlan.signature = swapStub.signature := rfl
  have call : session.call swapStub.signature top = swapStub.run api top swapStub.signature :=
    call_stub begun (by simp [stubs]) top
  rw [signature, call]
  refine ⟨?_, fun unreached => run_swapStub_unreached unreached _⟩
  intro location other x y first second
  obtain ⟨middle, place, after, stored, led, stored', exchanged⟩ :=
    Machine.exchange rfl first.2 rfl second.2
  refine ⟨after, ?_, exchanged⟩
  have writes : swapStub.writes = [numberWrite "b_1" 1, numberWrite "a_0" 2] := rfl
  have held := get_first "b_1" (.value (.f64 x)) [("a_0", .value (.f64 y))]
  have held' : Locals.get [("b_1", .value (.f64 x)), ("a_0", .value (.f64 y))] "a_0" =
    .value (.f64 y) := by rw [get_second (by decide), get_first]
  rw [run_swapStub first second, Stub.conclude, Machine.run_bind, writes,
    run_writeLocals_cons second.1 held second.2.1 stored,
    run_writeLocals_cons first.1 held' led stored']
  rfl

def gauge : Machine where
  stack.slots := [.fieldReference 0 0, .staticFieldReference 0 0]
  heap.entries := [{ value := .object 0 }]
  objects.cells :=
    [{ content := .native { typeName := "Gauge", fields := [.f64 0x7FF0000000000123] } }]
  types.types :=
    [{ name := "Limits", flavor := .native, statics := [.f64 0x3FF0000000000000] }]

theorem swaps_gauge : ∃ session, (Session.ofCapacity 2).initializeDemo = .ok session ∧
    (∃ after, gauge.run (session.call swapPlan.signature 2) = (.ok 0, after) ∧
      after.load (.field 0 0) .float64 none = .ok (.f64 0x3FF0000000000000) ∧
      after.load (.static 0 0) .float64 none = .ok (.f64 0x7FF0000000000123) ∧
      after.heap = gauge.heap) ∧
    ∃ fault, gauge.run (session.call swapPlan.signature 1) = (.error fault, gauge) := by
  have unbegun : (Session.ofCapacity 2).registry.initialized = false := rfl
  obtain ⟨session, begun⟩ := initializes unbegun
  have first : Reaches gauge 2 2 (.field 0 0) 0x7FF0000000000123 := ⟨by decide, rfl, rfl⟩
  have second : Reaches gauge 2 1 (.static 0 0) 0x3FF0000000000000 := ⟨by decide, rfl, rfl⟩
  obtain ⟨after, ran, exchanged⟩ := (swaps begun gauge 2).1 _ _ _ _ first second
  have cut : ∀ location bits, ¬ Reaches gauge 1 2 location bits :=
    fun _ _ reached => absurd reached.1 (by decide)
  exact ⟨session, begun, ⟨after, ran, exchanged.first, exchanged.second, exchanged.within.heap⟩,
    (swaps begun gauge 1).2 (.inl cut)⟩

end NativeBridge.Demo
