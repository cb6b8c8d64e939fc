import NativeBridge.Proofs.Calls.Reading
import NativeBridge.Proofs.Results

/-!
# What a read depends on

A read looks at one heap entry at most.

* `load_of_giveUp`, `read_of_giveUp`: entries that were given up do not matter to a read that does
  not reach any of them.
* `Reads.read_before`: when no read reaches an entry that an earlier one gave up, every value is the
  one that the machine held before the first read.
-/

namespace NativeBridge

def EvalStack.reached? (stack : EvalStack) : Location → Option Nat
  | .slot index =>
      match stack.slots[index]? with
      | some slot =>
          if slot.tag = .objectReference ∨ slot.tag = .fieldReference then some slot.index else none
      | none => none
  | .field object _ => some object
  | .static _ _ => none

def SlotRead.reached? (read : SlotRead) (stack : EvalStack) (top : StackPtr) : Option Nat :=
  match stack.locate read.resolve (top - read.offset) with
  | .ok location => stack.reached? location
  | .error _ => none

namespace Machine

variable {machine : Machine} {dropped : List Nat} {value : Value}

theorem fieldValue_of_giveUp {object field : Nat} (apart : object ∉ dropped)
    (found : (machine.giveUp dropped).fieldValue object field = .ok value) :
    machine.fieldValue object field = .ok value := by
  rw [fieldValue, bind_eq_ok] at found ⊢
  obtain ⟨owner, got, field⟩ := found
  exact ⟨owner, Heap.get_of_releaseAll apart got, field⟩

theorem slotValue_of_giveUp {kind : Kind} {slot : Slot}
    (apart : slot.tag = .objectReference ∨ slot.tag = .fieldReference → slot.index ∉ dropped)
    (found : (machine.giveUp dropped).slotValue kind slot = .ok value) :
    machine.slotValue kind slot = .ok value := by
  rw [slotValue] at found ⊢
  cases tag : slot.tag with
  | objectReference =>
      simp only [tag] at found ⊢
      exact Heap.get_of_releaseAll (apart (.inl tag)) found
  | fieldReference =>
      simp only [tag] at found ⊢
      exact fieldValue_of_giveUp (apart (.inr tag)) found
  | _ =>
      simp only [tag] at found ⊢
      exact found

theorem load_of_giveUp {location : Location} {kind : Kind} {coercion : Option Coercion}
    (apart : ∀ entry ∈ dropped, machine.stack.reached? location ≠ some entry)
    (loaded : (machine.giveUp dropped).load location kind coercion = .ok value) :
    machine.load location kind coercion = .ok value := by
  cases location with
  | slot index =>
      simp only [load, bind_eq_ok] at loaded ⊢
      obtain ⟨slot, inside, loaded⟩ := loaded
      refine ⟨slot, inside, ?_⟩
      split
      · rename_i own
        rwa [if_pos own] at loaded
      · rename_i elsewhere
        rw [if_neg elsewhere, bind_eq_ok] at loaded
        obtain ⟨stored, found, converted⟩ := loaded
        refine bind_eq_ok.mpr ⟨stored, slotValue_of_giveUp ?_ found, converted⟩
        intro reaching member
        apply apart slot.index member
        have found : machine.stack.slots[index]? = some slot := EvalStack.get_eq_ok_iff.mp inside
        rw [EvalStack.reached?, found]
        exact if_pos reaching
  | field object field =>
      simp only [load, bind_eq_ok] at loaded ⊢
      obtain ⟨stored, found, converted⟩ := loaded
      exact ⟨stored, fieldValue_of_giveUp (fun member => apart object member rfl) found, converted⟩
  | static typeId field => exact loaded

theorem read_of_giveUp {top : StackPtr} {read : SlotRead}
    (apart : ∀ entry ∈ dropped, read.reached? machine.stack top ≠ some entry)
    (taken : (machine.giveUp dropped).read top read = .ok value) :
    machine.read top read = .ok value := by
  simp only [Machine.read, loadSlot, bind_eq_ok] at taken ⊢
  obtain ⟨index, below, loaded, ⟨location, located, loads⟩, accepted⟩ := taken
  refine ⟨index, below, loaded, ⟨location, located, load_of_giveUp ?_ loads⟩, accepted⟩
  obtain ⟨-, rfl⟩ := StackPtr.minus_ok below
  intro entry member reached
  apply apart entry member
  have same : machine.stack.locate read.resolve (top - read.offset) = .ok location := located
  rw [SlotRead.reached?, same]
  exact reached

end Machine

/-- No read reaches a heap entry that an earlier one gives up. -/
def ReadOnce (stack : EvalStack) (top : StackPtr) (reads : List SlotRead) : Prop :=
  reads.Pairwise fun earlier later =>
    ∀ entry ∈ earlier.released stack top, later.reached? stack top ≠ some entry

instance (stack : EvalStack) (top : StackPtr) (reads : List SlotRead) :
    Decidable (ReadOnce stack top reads) := List.instDecidablePairwise reads

theorem Reads.read_from {top : StackPtr} {machine after : Machine} {reads : List SlotRead}
    {values : List Value} {dropped : List Nat}
    (taken : Reads top (machine.giveUp dropped) reads values after)
    (apart : ∀ read ∈ reads, ∀ entry ∈ dropped, read.reached? machine.stack top ≠ some entry)
    (once : ReadOnce machine.stack top reads) :
    List.Forall₂ (fun read value => machine.read top read = .ok value) reads values := by
  induction reads generalizing dropped values with
  | nil =>
      cases taken
      exact .nil
  | cons read rest ih =>
      cases taken with
      | cons value others =>
          -- What was given up grows along the reads; reaching is judged on the first stack.
          rw [Machine.giveUp_giveUp] at others
          obtain ⟨later, once⟩ := List.pairwise_cons.mp once
          refine .cons (Machine.read_of_giveUp (apart read List.mem_cons_self) value)
            (ih others ?_ once)
          intro other member entry either
          rcases List.mem_append.mp either with before | here
          · exact apart other (List.mem_cons_of_mem _ member) entry before
          · exact later other member entry here

theorem Reads.read_before {top : StackPtr} {machine after : Machine} {reads : List SlotRead}
    {values : List Value} (taken : Reads top machine reads values after)
    (once : ReadOnce machine.stack top reads) :
    List.Forall₂ (fun read value => machine.read top read = .ok value) reads values := by
  have start : Reads top (machine.giveUp []) reads values after := taken
  refine start.read_from ?_ once
  intro read member entry none
  cases none

end NativeBridge
