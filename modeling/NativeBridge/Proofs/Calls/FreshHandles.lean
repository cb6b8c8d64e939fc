import NativeBridge.Proofs.Calls.HeapEffect

/-!
# Values under fresh handles

The values of a call are pushed on the heap one after the other, and a slot is pointed at each new
entry. The call reads the slots in an order of its own and gives up each handle as it reads it.

* `pointed_pointAll`: after the pushes every slot holds its value under a handle of its own that was
  not live before, and nothing else has changed.
* `HoldsAt.load`: a slot that holds a value is read as the coercion takes the value.
* `Pointed.giveUp_eq`: giving up all the handles, in whatever order, leaves the heap that there was
  before the pushes.
-/

namespace NativeBridge

theorem Heap.get_of_live {heap : Heap} {handle : Nat} {value : Value}
    (bound : heap.live handle = some value) : heap.get handle = .ok value := by
  obtain ⟨entry, found, live⟩ := Option.bind_eq_some_iff.mp bound
  rw [HeapEntry.live?] at live
  split at live
  · cases live
  · exact get_eq_ok_iff.mpr ⟨entry, found, Option.some.inj live⟩

namespace Machine

def pointAt (index : StackPtr) (value : Value) : MachineM Unit := do
  let entry ← pushHeap value
  setSlot index (.object (.ofNat entry))

def pointAll : List (StackPtr × Value) → MachineM Unit
  | [] => return ()
  | (index, value) :: rest => do
      pointAt index value
      pointAll rest

structure HoldsAt (machine : Machine) (index : StackPtr) (handle : Nat) (value : Value) : Prop where
  slot : machine.stack.slots[index]? = some (.object (.ofNat handle))
  small : handle < UInt64.size
  live : machine.heap.live handle = some value

namespace HoldsAt

variable {machine : Machine} {index : StackPtr} {handle : Nat} {value : Value}

theorem owned? (holds : machine.HoldsAt index handle value) :
    machine.stack.owned? index = some handle := by
  rw [EvalStack.owned?_object holds.slot, Slot.index_object holds.small]

theorem giveUp (holds : machine.HoldsAt index handle value) {released : List Nat}
    (others : handle ∉ released) : (machine.giveUp released).HoldsAt index handle value where
  slot := holds.slot
  small := holds.small
  live := by rw [Machine.giveUp, Heap.live_releaseAll, if_neg others, holds.live]

theorem load (holds : machine.HoldsAt index handle value) (coercion : Coercion) :
    machine.load (.slot index) .object (some coercion) =
      coercion.apply machine.objects value := by
  have slot := EvalStack.get_eq_ok_iff.mpr holds.slot
  have entry : machine.slotValue .object (.object (.ofNat handle)) = .ok value := by
    have got := Heap.get_of_live holds.live
    rw [← Slot.index_object holds.small] at got
    exact got
  simp only [Machine.load, slot, bind, Except.bind, entry]
  rfl

theorem read {top : StackPtr} {read : SlotRead} {coercion : Coercion} {accepted : Value}
    (holds : machine.HoldsAt (top - read.offset) handle value) (below : read.offset ≤ top)
    (direct : read.resolve = false) (object : read.kind = .object)
    (coerced : read.coercion = some coercion)
    (accepts : coercion.apply machine.objects value = .ok accepted)
    (present : accepted.isNull = false) : machine.read top read = .ok accepted := by
  have place : top.minus read.offset = .ok (top - read.offset) := if_pos below
  have loaded : machine.loadSlot read.resolve (top - read.offset) read.kind read.coercion =
      .ok accepted := by
    rw [direct, object, coerced, ← accepts, ← holds.load coercion]
    rfl
  simp only [Machine.read, place, bind, Except.bind, loaded]
  cases read.refusal with
  | none => rfl
  | some fault => exact if_neg (by rw [present]; exact Bool.false_ne_true)

end HoldsAt

structure Pointed (before : Machine) (pushes : List (StackPtr × Value)) (handle : StackPtr → Nat)
    (after : Machine) : Prop where
  holds : ∀ push ∈ pushes, after.HoldsAt push.1 (handle push.1) push.2
  fresh : ∀ push ∈ pushes, before.heap.live (handle push.1) = none
  apart : ∀ push ∈ pushes, ∀ other ∈ pushes, handle push.1 = handle other.1 → push.1 = other.1
  kept : ∀ other, (∀ push ∈ pushes, handle push.1 ≠ other) →
    after.heap.live other = before.heap.live other
  sound : after.heap.Sound
  capacity : after.stack.capacity = before.stack.capacity
  objects : after.objects = before.objects

variable {before after : Machine} {pushes : List (StackPtr × Value)} {handle : StackPtr → Nat}

theorem Pointed.perm {window : List (StackPtr × Value)}
    (pointed : Pointed before pushes handle after) (each : pushes.Perm window) :
    Pointed before window handle after where
  holds push member := pointed.holds push (each.mem_iff.mpr member)
  fresh push member := pointed.fresh push (each.mem_iff.mpr member)
  apart push member other member' :=
    pointed.apart push (each.mem_iff.mpr member) other (each.mem_iff.mpr member')
  kept other apart := pointed.kept other fun push member => apart push (each.mem_iff.mp member)
  sound := pointed.sound
  capacity := pointed.capacity
  objects := pointed.objects

theorem Pointed.handle_ne (pointed : Pointed before pushes handle after) {first other : StackPtr}
    (listed : first ∈ pushes.map (·.1)) (listed' : other ∈ pushes.map (·.1))
    (elsewhere : first ≠ other) : handle first ≠ handle other := by
  obtain ⟨push, member, rfl⟩ := List.mem_map.mp listed
  obtain ⟨push', member', rfl⟩ := List.mem_map.mp listed'
  exact fun same => elsewhere (pointed.apart push member push' member' same)

theorem Pointed.giveUp_eq (pointed : Pointed before pushes handle after)
    (sound : before.heap.Sound) {released : List Nat}
    (all : released.Perm (pushes.map fun push => handle push.1)) :
    (after.giveUp released).heap = before.heap := by
  apply (pointed.sound.releaseAll released).ext sound
  funext other
  rw [Heap.live_releaseAll]
  by_cases gone : other ∈ released
  · obtain ⟨push, member, rfl⟩ := List.mem_map.mp (all.mem_iff.mp gone)
    rw [if_pos gone, pointed.fresh push member]
  · rw [if_neg gone]
    apply pointed.kept
    rintro push member rfl
    exact gone (all.mem_iff.mpr (List.mem_map_of_mem member))

def withPointed (before : Machine) (index : StackPtr) (value : Value) : Machine :=
  { before with
    heap := (before.heap.push value).2
    stack := { slots := before.stack.slots.set index (.object (.ofNat before.heap.size)) } }

section FirstPush

variable {index : StackPtr}

theorem run_pointAt (inside : index < before.stack.capacity) (value : Value) :
    before.run (pointAt index value) = (.ok (), before.withPointed index value) := by
  simp only [pointAt, run_bind, run_pushHeap, run_setSlot, EvalStack.set_inside inside]
  rfl

theorem run_pushObject_pointed (inside : index < before.stack.capacity) (value : Value) :
    before.run (pushObject index value false) =
      (.ok (index + 1), before.withPointed index value) := by
  simp only [pushObject, run_bind, run_get, run_pushHeap, pushSlot, run_setSlot,
    EvalStack.set_inside inside]
  rfl

theorem capacity_withPointed (before : Machine) (index : StackPtr) (value : Value) :
    (before.withPointed index value).stack.capacity = before.stack.capacity :=
  List.length_set

theorem size_withPointed (before : Machine) (index : StackPtr) (value : Value) :
    (before.withPointed index value).heap.size = before.heap.size + 1 :=
  List.length_append

theorem live_withPointed (before : Machine) (index : StackPtr) (value : Value) :
    (before.withPointed index value).heap.live =
      Function.update before.heap.live before.heap.size (some value) :=
  Heap.live_push before.heap value

theorem slot_withPointed (inside : index < before.stack.capacity) (value : Value) :
    (before.withPointed index value).stack.slots[index]? =
      some (.object (.ofNat before.heap.size)) :=
  List.getElem?_set_self inside

/-- A push that comes before others: its entry is live when they are made, so that none of them gets
its handle. -/
theorem Pointed.cons {value : Value}
    (pointed : Pointed (before.withPointed index value) pushes handle after)
    (unlisted : index ∉ pushes.map (·.1)) (small : before.heap.size < UInt64.size)
    (slot : after.stack.slots[index]? = some (.object (.ofNat before.heap.size))) :
    Pointed before ((index, value) :: pushes) (Function.update handle index before.heap.size)
      after := by
  have live := live_withPointed before index value
  have later : ∀ push ∈ pushes, handle push.1 ≠ before.heap.size := by
    intro push member same
    have fresh := pointed.fresh push member
    rw [live, same, Function.update_self] at fresh
    cases fresh
  have kept : ∀ push ∈ pushes,
      Function.update handle index before.heap.size push.1 = handle push.1 := by
    intro push member
    apply Function.update_of_ne
    intro same
    exact unlisted (same ▸ List.mem_map_of_mem (f := (·.1)) member)
  constructor
  case holds =>
    intro push member
    rcases List.mem_cons.mp member with rfl | member
    · rw [Function.update_self]
      refine ⟨slot, small, ?_⟩
      rw [pointed.kept before.heap.size later, live, Function.update_self]
    · rw [kept push member]
      exact pointed.holds push member
  case fresh =>
    intro push member
    rcases List.mem_cons.mp member with rfl | member
    · rw [Function.update_self, Heap.live_size]
    · rw [kept push member]
      have fresh := pointed.fresh push member
      rwa [live, Function.update_of_ne (later push member)] at fresh
  case apart =>
    intro push member other member' same
    rcases List.mem_cons.mp member with rfl | member <;>
      rcases List.mem_cons.mp member' with rfl | member'
    · rfl
    · rw [Function.update_self, kept other member'] at same
      exact absurd same.symm (later other member')
    · rw [Function.update_self, kept push member] at same
      exact absurd same (later push member)
    · rw [kept push member, kept other member'] at same
      exact pointed.apart push member other member' same
  case kept =>
    intro entry others
    have first : before.heap.size ≠ entry := by
      have first := others _ List.mem_cons_self
      rwa [Function.update_self] at first
    have rest : ∀ push ∈ pushes, handle push.1 ≠ entry := by
      intro push member
      rw [← kept push member]
      exact others push (List.mem_cons_of_mem _ member)
    rw [pointed.kept entry rest, live, Function.update_of_ne first.symm]
  case sound => exact pointed.sound
  case capacity => exact pointed.capacity.trans (capacity_withPointed before index value)
  case objects => exact pointed.objects

end FirstPush

theorem pointed_pointAll (sound : before.heap.Sound) (once : (pushes.map (·.1)).Nodup)
    (inside : ∀ push ∈ pushes, push.1 < before.stack.capacity)
    (room : before.heap.size + pushes.length ≤ UInt64.size) :
    ∃ handle after, before.run (pointAll pushes) = (.ok (), after) ∧
      Pointed before pushes handle after ∧
      ∀ index, index ∉ pushes.map (·.1) →
        after.stack.slots[index]? = before.stack.slots[index]? := by
  induction pushes generalizing before with
  | nil =>
      exact ⟨fun _ => 0, before, rfl, ⟨nofun, nofun, nofun, fun _ _ => rfl, sound, rfl, rfl⟩,
        fun _ _ => rfl⟩
  | cons push rest ih =>
      obtain ⟨index, value⟩ := push
      rw [List.map_cons, List.nodup_cons] at once
      rw [List.length_cons] at room
      obtain ⟨unlisted, once⟩ := once
      have here : index < before.stack.capacity := inside _ List.mem_cons_self
      have size := size_withPointed before index value
      have sound' : (before.withPointed index value).heap.Sound := sound.push value
      obtain ⟨handle, after, ran, pointed, frame⟩ := ih sound' once
        (fun push member => capacity_withPointed before index value ▸
          inside push (List.mem_cons_of_mem _ member))
        (by omega)
      refine ⟨_, after, ?_, pointed.cons unlisted (by omega) ?_, ?_⟩
      · rw [pointAll, run_bind, run_pointAt here]
        exact ran
      · rw [frame index unlisted, slot_withPointed here]
      · intro place unlisted
        rw [List.map_cons, List.mem_cons, not_or] at unlisted
        rw [frame place unlisted.2]
        exact List.getElem?_set_ne (Ne.symm unlisted.1)

end Machine

end NativeBridge
