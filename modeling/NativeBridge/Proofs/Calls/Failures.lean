import NativeBridge.Proofs.Calls.Writing

/-!
# Changes that fail

A call changes the machine in four ways: it gives up heap entries, stores values, and pushes numbers
and objects as results. A change that fails leaves the machine as it was, except for the push of an
object, which takes a heap entry before it looks for its slot.

* `Change.restores_iff`: when a change that fails leaves nothing behind.
-/

namespace NativeBridge

namespace Machine

inductive Change where
  | free (index : StackPtr)
  | store (location : Location) (kind : Kind) (value : Value)
  | pushValue (top : StackPtr) (kind : Kind) (value : Value)
  | pushObject (top : StackPtr) (value : Value) (unwrap : Bool)

def Change.act : Change → MachineM Unit
  | .free index => Machine.free index
  | .store location kind value => Machine.store location kind value
  | .pushValue top kind value => do
      let _ ← Machine.pushValue top kind value
      return ()
  | .pushObject top value unwrap => do
      let _ ← Machine.pushObject top value unwrap
      return ()

/-- If the change fails on a machine, it leaves the machine as it was: the stack, the heap, the
objects and the statics. -/
def Change.Restores (change : Change) (before : Machine) : Prop :=
  ∀ fault after, before.run change.act = (.error fault, after) → after = before

variable {before : Machine}

/-! ## Changes of one cell -/

theorem restores_free (index : StackPtr) : (Change.free index).Restores before := by
  intro fault after failed
  rw [Change.act, free] at failed
  rcases run_update_cases before _ with ⟨changed, -, ran⟩ | ⟨stopped, ran⟩
  · rw [ran] at failed
    cases failed
  · rw [ran] at failed
    exact (Prod.mk.inj failed).2.symm

theorem restores_store (location : Location) (kind : Kind) (value : Value) :
    (Change.store location kind value).Restores before := by
  intro fault after failed
  rw [Change.act] at failed
  rcases run_store before location kind value with ⟨changed, -, ran⟩ | ⟨stopped, ran⟩
  · rw [ran] at failed
    cases failed
  · rw [ran] at failed
    exact (Prod.mk.inj failed).2.symm

/-! ## Results -/

theorem run_pushSlot_inside {top : StackPtr} (inside : top < before.stack.capacity) (slot : Slot) :
    before.run (pushSlot top slot) =
      (.ok (top.plus 1),
        { before with stack := { slots := before.stack.slots.set top slot } }) := by
  simp only [pushSlot, run_bind, run_setSlot, EvalStack.set_inside inside, run_pure]

theorem run_pushSlot_outside {top : StackPtr} (outside : ¬ top < before.stack.capacity)
    (slot : Slot) : before.run (pushSlot top slot) = (.error (.invalidReference top), before) := by
  simp only [pushSlot, run_bind, run_setSlot, EvalStack.set_outside outside]

theorem restores_pushValue (top : StackPtr) (kind : Kind) (value : Value) :
    (Change.pushValue top kind value).Restores before := by
  intro fault after failed
  simp only [Change.act, pushValue, run_bind, run_get, run_lift] at failed
  cases encoded : before.objects.encode kind value with
  | error refused =>
      rw [encoded] at failed
      exact (Prod.mk.inj failed).2.symm
  | ok slot =>
      simp only [encoded] at failed
      by_cases inside : top < before.stack.capacity
      · rw [run_pushSlot_inside inside] at failed
        cases failed
      · rw [run_pushSlot_outside inside] at failed
        exact (Prod.mk.inj failed).2.symm

def withEntry (before : Machine) (value : Value) (unwrap : Bool) : Machine :=
  { before with
    heap :=
      (before.heap.push (if unwrap then before.objects.unwrapAdapter value else value)).2 }

theorem run_pushObject (before : Machine) (top : StackPtr) (value : Value) (unwrap : Bool) :
    before.run (pushObject top value unwrap) =
      (before.withEntry value unwrap).run
        (pushSlot top (.object (.ofNat before.heap.size))) := by
  simp only [pushObject, run_bind, run_get, run_pushHeap]
  rfl

theorem run_pushObject_inside {top : StackPtr} (inside : top < before.stack.capacity)
    (value : Value) (unwrap : Bool) :
    ∃ after, before.run (Change.pushObject top value unwrap).act = (.ok (), after) := by
  have room : top < (before.withEntry value unwrap).stack.capacity := inside
  rw [Change.act, run_bind, run_pushObject, run_pushSlot_inside room]
  exact ⟨_, rfl⟩

theorem run_pushObject_outside {top : StackPtr} (outside : ¬ top < before.stack.capacity)
    (value : Value) (unwrap : Bool) :
    before.run (Change.pushObject top value unwrap).act =
      (.error (.invalidReference top), before.withEntry value unwrap) := by
  have full : ¬ top < (before.withEntry value unwrap).stack.capacity := outside
  rw [Change.act, run_bind, run_pushObject, run_pushSlot_outside full]

theorem withEntry_ne (before : Machine) (value : Value) (unwrap : Bool) :
    before.withEntry value unwrap ≠ before := by
  intro same
  have size := congrArg (fun machine => machine.heap.entries.length) same
  simp [withEntry, Heap.push] at size

theorem restores_pushObject_iff (top : StackPtr) (value : Value) (unwrap : Bool) :
    (Change.pushObject top value unwrap).Restores before ↔ top < before.stack.capacity := by
  constructor
  · intro restores
    by_contra outside
    exact withEntry_ne before value unwrap
      (restores _ _ (run_pushObject_outside outside value unwrap))
  · intro inside fault after failed
    obtain ⟨pushed, ran⟩ := run_pushObject_inside inside value unwrap
    rw [ran] at failed
    cases failed

/-- A change that fails leaves nothing behind, unless it is the push of an object above the stack.
That one leaves behind the heap entry of the object, which no slot owns, and nothing else. -/
theorem Change.restores_iff (before : Machine) (change : Change) :
    (change.Restores before ↔ ∀ top value unwrap, change = .pushObject top value unwrap →
      top < before.stack.capacity) ∧
    ∀ top value unwrap, ¬ top < before.stack.capacity →
      before.run (Change.pushObject top value unwrap).act =
        (.error (.invalidReference top), { before with
          heap := { entries := before.heap.entries ++
            [{ value := if unwrap then before.objects.unwrapAdapter value else value }] } }) := by
  refine ⟨?_, fun top value unwrap outside => run_pushObject_outside outside value unwrap⟩
  cases change with
  | free index => exact iff_of_true (restores_free index) nofun
  | store location kind value => exact iff_of_true (restores_store location kind value) nofun
  | pushValue top kind value => exact iff_of_true (restores_pushValue top kind value) nofun
  | pushObject top value unwrap =>
      rw [restores_pushObject_iff]
      constructor
      · rintro inside top value unwrap ⟨⟩
        exact inside
      · intro inside
        exact inside top value unwrap rfl

theorem not_always_restores : ¬ ∀ (before : Machine) (change : Change), change.Restores before := by
  intro restores
  have after := restores {} (.pushObject 0 .null false) _ _
    (run_pushObject_outside (by decide) .null false)
  exact absurd after (by decide)

end Machine

end NativeBridge
