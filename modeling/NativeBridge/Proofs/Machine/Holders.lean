import NativeBridge.Proofs.Machine.LiveHandles

/-!
# Holders of handles

Some slots hold a handle. While values are written, the live handles and the slots that hold them
change together, in one of three ways: a number takes the place of a handle, an object takes the
place of another under the same handle, or an object gets a fresh handle and a slot to hold it.

* `Holding`: what these changes keep for the slots below a base, when each handle that is live at
  first has one holder there at most.
* `Covered`: when no slot takes both numbers and objects, each handle that becomes live has a
  holder.
-/

namespace NativeBridge

abbrev Holders := Nat → Option Nat

/-- One slot below the top holds a handle, and no other slot there does. -/
def HeldOnce (held : Holders) (top handle : Nat) : Prop :=
  ∃! index, index < top ∧ held index = some handle

instance (held : Holders) (top handle : Nat) : Decidable (HeldOnce held top handle) :=
  decidable_of_iff (∃ index, index < top ∧ held index = some handle ∧
      ∀ other, other < top → held other = some handle → other = index) <|
    exists_congr fun _ =>
      ⟨fun ⟨below, holds, only⟩ => ⟨⟨below, holds⟩, fun other there => only other there.1 there.2⟩,
        fun ⟨⟨below, holds⟩, only⟩ => ⟨below, holds, fun other below' holds' =>
          only other ⟨below', holds'⟩⟩⟩

def Dangling (live : LiveMap) (held : Holders) (top handle : Nat) : Prop :=
  live handle = none ∧ ∃ index < top, held index = some handle

structure Holding (base : Nat) (numbers objects : Nat → Prop) (live₀ : LiveMap) (held₀ : Holders)
    (live : LiveMap) (held : Holders) : Prop where
  kept : ∀ handle, live₀ handle ≠ none → live handle ≠ none
  bound : ∀ index < base, ∀ handle, held index = some handle →
    live handle ≠ none ∨ Dangling live₀ held₀ base handle
  single : ∀ handle, ¬ Dangling live₀ held₀ base handle → ∀ first < base, ∀ second < base,
    held first = some handle → held second = some handle → first = second
  old : ∀ handle, live₀ handle ≠ none → ∀ index < base, held index = some handle →
    held₀ index = some handle
  stays : ∀ handle, live₀ handle ≠ none → ∀ index < base, ¬ numbers index →
    held₀ index = some handle → held index = some handle
  origin : ∀ index < base, held index = held₀ index ∨ held index = none ∨ objects index

def Covered (base : Nat) (live₀ : LiveMap) (held₀ : Holders) (live : LiveMap) (held : Holders) :
    Prop :=
  ∀ handle, live handle ≠ none → live₀ handle ≠ none ∨ Dangling live₀ held₀ base handle ∨
    ∃ index < base, held index = some handle

variable {base top handle index : Nat} {numbers objects : Nat → Prop} {live₀ live : LiveMap}
  {held₀ held : Holders} {value : Value}

namespace Holding

theorem start (unique : ∀ handle, live₀ handle ≠ none → ∀ first < base, ∀ second < base,
      held₀ first = some handle → held₀ second = some handle → first = second) :
    Holding base numbers objects live₀ held₀ live₀ held₀ where
  kept _ bound := bound
  bound index below handle holds := by
    by_cases bound : live₀ handle = none
    · exact .inr ⟨bound, index, below, holds⟩
    · exact .inl bound
  single handle tied first below second below' holds holds' := by
    apply unique handle _ first below second below' holds holds'
    intro unbound
    exact tied ⟨unbound, first, below, holds⟩
  old _ _ _ _ holds := holds
  stays _ _ _ _ _ holds := holds
  origin _ _ := .inl rfl

theorem number (holding : Holding base numbers objects live₀ held₀ live held)
    (permitted : index < base → numbers index) :
    Holding base numbers objects live₀ held₀ live (Function.update held index none) where
  kept := holding.kept
  bound other below handle holds := by
    rw [Function.update_apply] at holds
    split at holds
    · cases holds
    · exact holding.bound other below handle holds
  single handle tied first below second below' holds holds' := by
    rw [Function.update_apply] at holds holds'
    split at holds
    · cases holds
    · split at holds'
      · cases holds'
      · exact holding.single handle tied first below second below' holds holds'
  old handle bound other below holds := by
    rw [Function.update_apply] at holds
    split at holds
    · cases holds
    · exact holding.old handle bound other below holds
  stays handle bound other below plain holds := by
    have apart : other ≠ index := by
      rintro rfl
      exact plain (permitted below)
    rw [Function.update_of_ne apart]
    exact holding.stays handle bound other below plain holds
  origin other below := by
    rw [Function.update_apply]
    split
    · exact .inr (.inl rfl)
    · exact holding.origin other below

theorem entry (holding : Holding base numbers objects live₀ held₀ live held) (handle : Nat)
    (value : Value) :
    Holding base numbers objects live₀ held₀ (Function.update live handle (some value)) held where
  kept other bound := by
    rw [Function.update_apply]
    split
    · exact nofun
    · exact holding.kept other bound
  bound index below other holds := by
    rw [Function.update_apply]
    split
    · exact .inl nofun
    · exact holding.bound index below other holds
  single := holding.single
  old := holding.old
  stays := holding.stays
  origin := holding.origin

theorem fresh (holding : Holding base numbers objects live₀ held₀ live held)
    (unbound : live handle = none) (free : ∀ other, held index = some other → live other = none)
    (permitted : index < base → objects index) (value : Value) :
    Holding base numbers objects live₀ held₀ (Function.update live handle (some value))
      (Function.update held index (some handle)) where
  kept other bound := by
    rw [Function.update_apply]
    split
    · exact nofun
    · exact holding.kept other bound
  bound other below held holds := by
    rw [Function.update_apply] at holds ⊢
    split
    · exact .inl nofun
    · rename_i apart
      split at holds
      · cases holds
        exact absurd rfl apart
      · exact holding.bound other below held holds
  single other tied first below second below' holds holds' := by
    -- A slot that held the fresh handle before would hold a handle that dangled at first.
    have unheld (slot : Nat) (below : slot < base) (same : handle = other)
        (holds : held slot = some other) : False := by
      subst same
      rcases holding.bound slot below handle holds with bound | dangling
      · exact bound unbound
      · exact tied dangling
    rw [Function.update_apply] at holds holds'
    split at holds
    · rename_i here
      split at holds'
      · rename_i here'
        rw [here, here']
      · exact absurd holds' (unheld second below' (Option.some.inj holds))
    · split at holds'
      · exact absurd holds (unheld first below (Option.some.inj holds'))
      · exact holding.single other tied first below second below' holds holds'
  old other bound slot below holds := by
    rw [Function.update_apply] at holds
    split at holds
    · cases holds
      exact absurd unbound (holding.kept handle bound)
    · exact holding.old other bound slot below holds
  stays other bound slot below plain holds := by
    have still := holding.stays other bound slot below plain holds
    have apart : slot ≠ index := by
      rintro rfl
      exact holding.kept other bound (free other still)
    rw [Function.update_of_ne apart]
    exact still
  origin other below := by
    rw [Function.update_apply]
    split
    · rename_i here
      subst here
      exact .inr (.inr (permitted below))
    · exact holding.origin other below

/-! ## Every live handle has a holder -/

theorem covered_number (holding : Holding base numbers objects live₀ held₀ live held)
    (covered : Covered base live₀ held₀ live held)
    (apart : index < base → ¬ objects index) :
    Covered base live₀ held₀ live (Function.update held index none) := by
  intro handle bound
  rcases covered handle bound with old | dangling | ⟨other, below, holds⟩
  · exact .inl old
  · exact .inr (.inl dangling)
  · by_cases here : other = index
    · subst here
      -- No object was written to the slot, so that it held the handle from the start.
      have first : held₀ other = some handle := by
        rcases holding.origin other below with same | none | object
        · rw [← same, holds]
        · rw [none] at holds
          cases holds
        · exact absurd object (apart below)
      by_cases old : live₀ handle = none
      · exact .inr (.inl ⟨old, other, below, first⟩)
      · exact .inl old
    · refine .inr (.inr ⟨other, below, ?_⟩)
      rw [Function.update_of_ne here]
      exact holds

end Holding

theorem Covered.entry (covered : Covered base live₀ held₀ live held) (below : index < base)
    (holds : held index = some handle) (value : Value) :
    Covered base live₀ held₀ (Function.update live handle (some value)) held := by
  intro other bound
  by_cases same : other = handle
  · subst same
    exact .inr (.inr ⟨index, below, holds⟩)
  · rw [Function.update_of_ne same] at bound
    exact covered other bound

theorem Covered.fresh (covered : Covered base live₀ held₀ live held) (below : index < base)
    (free : ∀ other, held index = some other → live other = none) (value : Value) :
    Covered base live₀ held₀ (Function.update live handle (some value))
      (Function.update held index (some handle)) := by
  intro other bound
  by_cases same : other = handle
  · subst same
    exact .inr (.inr ⟨index, below, Function.update_self _ _ _⟩)
  · rw [Function.update_of_ne same] at bound
    rcases covered other bound with old | dangling | ⟨slot, below, holds⟩
    · exact .inl old
    · exact .inr (.inl dangling)
    · refine .inr (.inr ⟨slot, below, ?_⟩)
      have apart : slot ≠ index := by
        rintro rfl
        exact bound (free other holds)
      rw [Function.update_of_ne apart]
      exact holds

/-! ## Handles with one holder -/

theorem Holding.heldOnce (holding : Holding base numbers objects live₀ held₀ live held)
    (tied : ¬ Dangling live₀ held₀ base handle) (below : index < base)
    (holds : held index = some handle) : HeldOnce held base handle :=
  ⟨index, ⟨below, holds⟩, fun other there =>
    holding.single handle tied other there.1 index below there.2 holds⟩

theorem HeldOnce.extend {held' : Holders} (once : HeldOnce held base handle) (above : base ≤ top)
    (same : ∀ index < base, held' index = held index)
    (free : ∀ index, base ≤ index → index < top → held' index ≠ some handle) :
    HeldOnce held' top handle := by
  obtain ⟨index, ⟨below, holds⟩, only⟩ := once
  refine ⟨index, ⟨Nat.lt_of_lt_of_le below above, (same index below).trans holds⟩, ?_⟩
  rintro other ⟨inside, holds'⟩
  by_cases lower : other < base
  · exact only other ⟨lower, (same other lower).symm.trans holds'⟩
  · exact absurd holds' (free other (Nat.le_of_not_lt lower) inside)

end NativeBridge
