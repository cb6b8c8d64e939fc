import NativeBridge.Proofs.Calls.KindChecks

/-!
# Ordinals in references

A reference to a field or a static keeps the object or the type in full, but of the ordinal no more
than 32 bits, and the sign of these is extended when the ordinal is taken out again.

* `Slot.keptOrdinal_eq_iff`: the ordinals that come out as they went in.
* `Machine.reference_reaches`: the cell that a reference leads to, and when it is a cell although the
  one that the reference was built for does not exist.
-/

namespace NativeBridge

namespace Slot

def keptOrdinal (ordinal : Nat) : Nat :=
  if ordinal % 2 ^ 32 < 2 ^ 31 then ordinal % 2 ^ 32 else 2 ^ 64 - 2 ^ 32 + ordinal % 2 ^ 32

/-- A slot that was built as the reference to a cell, of which the ordinal is given and the place of
all cells of the same object or type. -/
inductive BuiltFor : Slot → Nat → (Nat → Location) → Prop where
  | field (object ordinal : UInt64) :
      BuiltFor (fieldReference object ordinal) ordinal.toNat (.field object.toNat)
  | static (typeId : UInt32) (ordinal : UInt64) :
      BuiltFor (staticFieldReference typeId ordinal) ordinal.toNat (.static typeId.toNat)

theorem toNat_extended (ordinal : UInt64) :
    ordinal.toUInt32.toInt32.toInt64.toUInt64.toNat = keptOrdinal ordinal.toNat := by
  have bits : ordinal.toUInt32.toInt32.toInt64.toUInt64.toNat =
      (BitVec.signExtend 64 (BitVec.setWidth 32 ordinal.toBitVec)).toNat := rfl
  have low : (BitVec.setWidth 32 ordinal.toBitVec).toNat = ordinal.toNat % 2 ^ 32 :=
    BitVec.toNat_setWidth 32 ordinal.toBitVec
  have fits : ordinal.toNat % 2 ^ 32 < 2 ^ 64 := by omega
  rw [bits, BitVec.toNat_signExtend, BitVec.toNat_setWidth, BitVec.msb_eq_decide, low,
    Nat.mod_eq_of_lt fits, keptOrdinal]
  simp only [decide_eq_true_eq]
  split <;> split <;> omega

theorem keptOrdinal_eq_iff {ordinal : Nat} (fits : ordinal < 2 ^ 64) :
    keptOrdinal ordinal = ordinal ↔ ordinal < 2 ^ 31 ∨ 2 ^ 64 - 2 ^ 31 ≤ ordinal := by
  rw [keptOrdinal]
  split <;> omega

theorem le_keptOrdinal {ordinal : Nat} (fits : ordinal < 2 ^ 64)
    (signed : ¬ordinal % 2 ^ 32 < 2 ^ 31) : ordinal ≤ keptOrdinal ordinal := by
  rw [keptOrdinal, if_neg signed]
  omega

variable {slot : Slot} {ordinal : Nat} {cells : Nat → Location}

theorem BuiltFor.fits (built : slot.BuiltFor ordinal cells) : ordinal < 2 ^ 64 := by
  cases built with
  | field object ordinal | static typeId ordinal => exact ordinal.toNat_lt

theorem BuiltFor.cells_inj (built : slot.BuiltFor ordinal cells) {first second : Nat} :
    cells first = cells second ↔ first = second := by
  cases built <;> simp

end Slot

namespace Machine

variable {machine : Machine} {index : StackPtr} {slot : Slot} {ordinal : Nat}
  {cells : Nat → Location}

theorem resolve_of_builtFor (built : slot.BuiltFor ordinal cells)
    (found : machine.stack.get index = .ok slot) :
    machine.stack.resolve index = .ok (cells (Slot.keptOrdinal ordinal)) := by
  cases built with
  | field object ordinal =>
      simp only [EvalStack.resolve, found, bind, Except.bind, Slot.fieldReference, Slot.field,
        Slot.toNat_extended]
      rfl
  | static typeId ordinal =>
      simp only [EvalStack.resolve, found, bind, Except.bind, Slot.staticFieldReference,
        Slot.field, Slot.typeId, Slot.toNat_extended, UInt32.toUInt32_toUInt64]
      rfl

theorem loadSlot_of_builtFor (built : slot.BuiltFor ordinal cells)
    (found : machine.stack.get index = .ok slot) (resolve : Bool) (kind : Kind)
    (coercion : Option Coercion) : machine.loadSlot resolve index kind coercion =
      machine.load (cells (Slot.keptOrdinal ordinal)) kind coercion := by
  cases resolve with
  | true =>
      simp only [loadSlot, EvalStack.locate, if_true, resolve_of_builtFor built found, bind,
        Except.bind]
  | false =>
      simp only [loadSlot, EvalStack.locate, Bool.false_eq_true, if_false, bind, Except.bind,
        load_eq, valueAt, found, slotValue]
      cases built with
      | field object ordinal =>
          simp only [Slot.fieldReference, Slot.field, Slot.toNat_extended]
          rfl
      | static typeId ordinal =>
          simp only [Slot.staticFieldReference, Slot.field, Slot.typeId, Slot.toNat_extended,
            UInt32.toUInt32_toUInt64]

theorem HasCell.lower (built : slot.BuiltFor ordinal cells) {lower upper : Nat}
    (cell : machine.HasCell (cells upper)) (below : lower ≤ upper) :
    machine.HasCell (cells lower) := by
  cases built with
  | field =>
      cases cell with
      | field found named => exact .field found (Nat.lt_of_le_of_lt below named)
  | static =>
      cases cell with
      | static found named => exact .static found (Nat.lt_of_le_of_lt below named)

theorem hasCell_keptOrdinal_iff (built : slot.BuiltFor ordinal cells)
    (missing : ¬machine.HasCell (cells ordinal)) :
    machine.HasCell (cells (Slot.keptOrdinal ordinal)) ↔
      ordinal % 2 ^ 32 < 2 ^ 31 ∧ machine.HasCell (cells (ordinal % 2 ^ 32)) := by
  by_cases signed : ordinal % 2 ^ 32 < 2 ^ 31
  · rw [Slot.keptOrdinal, if_pos signed]
    exact (and_iff_right signed).symm
  · refine iff_of_false ?_ fun plain => signed plain.1
    intro cell
    exact missing (cell.lower built (Slot.le_keptOrdinal built.fits signed))

/-- A reference leads to the cell that it was built for exactly if the ordinal fits into the signed
half of a word. Any other one leads elsewhere, in the end to another cell of the same object or type
if there is one with the low half of the ordinal. -/
theorem reference_reaches (built : slot.BuiltFor ordinal cells)
    (found : machine.stack.get index = .ok slot) :
    machine.stack.resolve index = .ok (cells (Slot.keptOrdinal ordinal)) ∧
    (∀ resolve kind coercion, machine.loadSlot resolve index kind coercion =
      machine.load (cells (Slot.keptOrdinal ordinal)) kind coercion) ∧
    (machine.stack.resolve index = .ok (cells ordinal) ↔
      ordinal < 2 ^ 31 ∨ 2 ^ 64 - 2 ^ 31 ≤ ordinal) ∧
    (¬machine.HasCell (cells ordinal) →
      (machine.HasCell (cells (Slot.keptOrdinal ordinal)) ↔
        ordinal % 2 ^ 32 < 2 ^ 31 ∧ machine.HasCell (cells (ordinal % 2 ^ 32)))) := by
  have resolved := resolve_of_builtFor built found
  refine ⟨resolved, loadSlot_of_builtFor built found, ?_, hasCell_keptOrdinal_iff built⟩
  rw [resolved, Except.ok.injEq, built.cells_inj, Slot.keptOrdinal_eq_iff built.fits]

def counting (ordinal : UInt64) : Machine where
  stack := { slots := [.fieldReference 0 ordinal] }
  heap := { entries := [{ value := .object 0 }] }
  objects := { cells := [{ content := .script { typeName := "Counter", fields := [.i32 7] } }] }

theorem counting_lacks {ordinal : UInt64} {field : Nat} (beyond : 0 < field) :
    ¬(counting ordinal).HasCell (.field 0 field) := by
  rintro (_ | ⟨found, named⟩)
  cases found
  exact absurd (Nat.lt_one_iff.mp named) (Nat.ne_of_gt beyond)

theorem counting_reaches :
    (counting 0x100000000).stack.get 0 = .ok (.fieldReference 0 0x100000000) ∧
      ¬(counting 0x100000000).HasCell (.field 0 0x100000000) ∧
      (counting 0x100000000).stack.resolve 0 = .ok (.field 0 0) ∧
      (counting 0x100000000).loadSlot true 0 .int32 none = .ok (.i32 7) := by
  have found : (counting 0x100000000).stack.get 0 = .ok (.fieldReference 0 0x100000000) := rfl
  obtain ⟨resolved, loaded, -, -⟩ := reference_reaches (.field 0 0x100000000) found
  exact ⟨found, counting_lacks (by decide), resolved, (loaded true .int32 none).trans rfl⟩

theorem not_always_reaches :
    ¬ ∀ (machine : Machine) (index : StackPtr) (object ordinal : UInt64),
        machine.stack.get index = .ok (.fieldReference object ordinal) →
          machine.stack.resolve index = .ok (.field object.toNat ordinal.toNat) ∧
            (¬machine.HasCell (.field object.toNat ordinal.toNat) →
              ∀ kind coercion value, machine.loadSlot true index kind coercion ≠ .ok value) := by
  intro faithful
  obtain ⟨-, unread⟩ := faithful (counting 0x100000000) 0 0 0x100000000 rfl
  exact unread (counting_lacks (by decide)) .int32 none (.i32 7) rfl

end Machine

end NativeBridge
