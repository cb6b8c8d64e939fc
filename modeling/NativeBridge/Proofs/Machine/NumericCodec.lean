import Mathlib.Algebra.Group.Nat.Defs
import Mathlib.Tactic.Common
import NativeBridge.Calls.Machine

/-!
# Numbers in slots

A number of a kind goes into a slot, and out of it again, bit by bit. Twelve kinds share four tags:
a kind that is narrower than its tag is extended on the way in and cut on the way out.

* `ofBits?_of_encode?`: a number comes back from the slot it was written to.
* `boxSlot?_of_encode?`: the box of that slot stands for the same slot.
* `encode?_of_ofBits?`: a number that was read is written as a canonical slot.
* `encode?_eq_slot_iff`: which slots come back unchanged.
* `numeric_codec`: the three routes through a slot, a box and a stored value.
-/

namespace NativeBridge

/-! ## Canonical slots -/

def Tag.width : Tag → Nat
  | .integer | .float => 32
  | _ => 64

def Kind.width : Kind → Nat
  | .bool => 1
  | .byte | .sbyte => 8
  | .int16 | .uint16 => 16
  | .int32 | .uint32 | .char | .float32 => 32
  | .int64 | .uint64 | .float64 | .object => 64

def Kind.isSigned : Kind → Bool
  | .sbyte | .int16 | .int32 | .int64 => true
  | _ => false

def Kind.extend (kind : Kind) (bits : BitVec kind.width) (width : Nat) : BitVec width :=
  if kind.isSigned then bits.signExtend width else bits.setWidth width

namespace Slot

def extension (kind : Kind) (slot : Slot) : BitVec slot.tag.width :=
  kind.extend (slot.word.toBitVec.setWidth kind.width) slot.tag.width

/-- A slot as it is written for a kind: nothing in the secondary integer, nothing above the bits of
the tag, and these are the extension of the bits of the kind. -/
structure IsCanonical (kind : Kind) (slot : Slot) : Prop where
  low : slot.low = 0
  high : slot.word.toNat < 2 ^ slot.tag.width
  extended : slot.word.toBitVec.setWidth slot.tag.width = slot.extension kind

def canonical (kind : Kind) (slot : Slot) : Slot :=
  { tag := slot.tag, word := .ofBitVec ((slot.extension kind).setWidth 64), low := 0 }

theorem setWidth_eq_iff {width : Nat} (fits : width ≤ 64) (bits : BitVec width) (word : BitVec 64) :
    bits.setWidth 64 = word ↔ word.toNat < 2 ^ width ∧ word.setWidth width = bits := by
  constructor
  · rintro rfl
    refine ⟨?_, ?_⟩
    · rw [BitVec.toNat_setWidth_of_le fits]
      exact bits.isLt
    · rw [BitVec.setWidth_setWidth_of_le _ fits, BitVec.setWidth_eq]
  · rintro ⟨small, rfl⟩
    apply BitVec.eq_of_toNat_eq
    rw [BitVec.toNat_setWidth_of_le fits, BitVec.toNat_setWidth, Nat.mod_eq_of_lt small]

theorem canonical_eq_iff (kind : Kind) (slot : Slot) :
    slot.canonical kind = slot ↔ slot.IsCanonical kind := by
  have fits : slot.tag.width ≤ 64 := by cases slot.tag <;> decide
  have words := setWidth_eq_iff fits (slot.extension kind) slot.word.toBitVec
  constructor
  · intro same
    have word : (slot.extension kind).setWidth 64 = slot.word.toBitVec :=
      congrArg (·.word.toBitVec) same
    obtain ⟨high, extended⟩ := words.mp word
    exact ⟨(congrArg Slot.low same).symm, high, extended⟩
  · rintro ⟨low, high, extended⟩
    rw [canonical, words.mpr ⟨high, extended⟩]
    cases slot
    cases low
    rfl

end Slot

namespace Kind

variable {kind : Kind} {value : Value} {slot : Slot}

/-! ## Writing, then reading -/

theorem charOfBits?_val (c : Char) : charOfBits? c.val = some c := by
  rw [charOfBits?, dif_pos c.valid]

theorem bit_eq (b : Bool) : ((if b then 1 else 0 : Int32) == 1) = b := by
  cases b <;> rfl

theorem encode?_isSome (known : ofValue? value = some kind) :
    ∃ slot, kind.encode? value = some slot := by
  cases value <;> cases known <;> exact ⟨_, rfl⟩

theorem ofBits?_of_encode? (encoded : kind.encode? value = some slot) :
    kind.tag? = some slot.tag ∧ kind.ofBits? slot = some value := by
  rw [encode?.eq_def] at encoded
  split at encoded
  all_goals cases encoded
  all_goals refine ⟨rfl, ?_⟩
  all_goals simp [ofBits?, Slot.integer, Slot.intBits, Slot.long, Slot.longBits, Slot.float,
    Slot.floatBits, Slot.double, Slot.doubleBits, charOfBits?_val, bit_eq]

theorem decode_eq_ok_iff :
    kind.decode slot = .ok value ↔ kind.tag? = some slot.tag ∧ kind.ofBits? slot = some value := by
  rw [decode]
  cases tagged : kind.tag? with
  | none => simp
  | some tag =>
      simp only [Option.some.injEq]
      by_cases same : slot.tag = tag
      · rw [if_neg (not_not.mpr same), eq_comm (a := tag)]
        cases kind.ofBits? slot <;> simp [same]
      · rw [if_pos same]
        simp [Ne.symm same]

/-! ## Boxes -/

theorem boxSlot?_of_encode? (encoded : kind.encode? value = some slot) :
    ∃ boxed, boxSlot? slot = some boxed ∧ slotOf? boxed = some slot := by
  rw [encode?.eq_def] at encoded
  split at encoded
  all_goals cases encoded
  all_goals refine ⟨_, rfl, ?_⟩
  all_goals simp [slotOf?, ofValue?, encode?, Slot.integer, Slot.intBits, Slot.long, Slot.longBits,
    Slot.float, Slot.floatBits, Slot.double, Slot.doubleBits]

/-! ## Reading, then writing -/

theorem ofBits?_isSome_iff (tagged : kind.tag? = some slot.tag) :
    (∃ value, kind.ofBits? slot = some value) ↔
      (kind = .char → slot.word.toUInt32.isValidChar) := by
  cases kind with
  | object => cases tagged
  | char =>
      by_cases valid : slot.word.toUInt32.isValidChar <;> simp [ofBits?, charOfBits?, valid]
  | _ => simp [ofBits?]

theorem charOfBits?_eq_some {bits : UInt32} {c : Char} (read : charOfBits? bits = some c) :
    c.val = bits := by
  rw [charOfBits?] at read
  split at read
  · cases read
    rfl
  · cases read

theorem encode?_of_ofBits? (tagged : kind.tag? = some slot.tag)
    (read : kind.ofBits? slot = some value) (notBool : kind ≠ .bool) :
    kind.encode? value = some (slot.canonical kind) := by
  obtain ⟨tag, word, low⟩ := slot
  cases kind
  case object => cases tagged
  case bool => exact absurd rfl notBool
  case char =>
    cases tagged
    obtain ⟨c, found, rfl⟩ := Option.map_eq_some_iff.mp read
    have code := charOfBits?_eq_some found
    simp only [encode?, code, Slot.canonical, Slot.integer, Option.some.injEq, Slot.mk.injEq,
      true_and, and_true]
    rfl
  all_goals cases tagged
  all_goals cases read
  all_goals simp only [encode?, Slot.canonical, Slot.integer, Slot.long, Slot.float, Slot.double,
    Option.some.injEq, Slot.mk.injEq, true_and, and_true]
  all_goals try rfl
  all_goals apply UInt64.toBitVec_inj.mp
  all_goals simp only [Slot.extension, extend, isSigned, Kind.width, Tag.width, Slot.intBits,
    Slot.longBits, reduceIte, Bool.false_eq_true, UInt32.toBitVec_toUInt64, Int32.toBitVec_toUInt32,
    UInt32.toBitVec_toInt32, UInt64.toBitVec_toUInt32, Int32.toBitVec_toInt16,
    Int32.toBitVec_toInt8, Int16.toBitVec_toInt32, Int8.toBitVec_toInt32,
    UInt16.toBitVec_toUInt32, UInt8.toBitVec_toUInt32, UInt32.toBitVec_toUInt16,
    UInt32.toBitVec_toUInt8, UInt64.toBitVec_toInt64, Int64.toBitVec_toUInt64]
  all_goals simp [BitVec.signExtend_eq_setWidth_of_le, BitVec.setWidth_setWidth_of_le]

theorem isCanonical_bool_iff (tagged : slot.tag = .integer) :
    slot.IsCanonical .bool ↔ slot.word.toNat ≤ 1 ∧ slot.low = 0 := by
  obtain ⟨tag, word, low⟩ := slot
  cases tagged
  have bits : Slot.canonical .bool ⟨.integer, word, low⟩ =
      ⟨.integer, .ofBitVec ((word.toBitVec.setWidth 1).setWidth 64), 0⟩ := by
    simp [Slot.canonical, Slot.extension, extend, isSigned, Kind.width, Tag.width]
  have words := Slot.setWidth_eq_iff (by decide) (word.toBitVec.setWidth 1) word.toBitVec
  have range : word.toBitVec.toNat < 2 ^ 1 ↔ word.toNat ≤ 1 := Nat.lt_succ_iff
  rw [← Slot.canonical_eq_iff, bits, Slot.mk.injEq, ← UInt64.toBitVec_inj, words, range]
  simp [eq_comm]

theorem encode?_bool_iff (tagged : slot.tag = .integer) :
    Kind.bool.encode? (.bool (slot.intBits == 1)) = some slot ↔
      slot.word.toNat ≤ 1 ∧ slot.low = 0 := by
  obtain ⟨tag, word, low⟩ := slot
  cases tagged
  have one : word.toUInt32.toInt32 = 1 ↔ word.toNat % 2 ^ 32 = 1 := by
    rw [← Int32.toBitVec_inj, ← BitVec.toNat_inj]
    simp
  have written : Kind.bool.encode? (.bool (Slot.intBits ⟨.integer, word, low⟩ == 1)) =
      some ⟨.integer, if word.toNat % 2 ^ 32 = 1 then 1 else 0, 0⟩ := by
    by_cases set : word.toUInt32.toInt32 = 1
    · have bit : (Slot.intBits ⟨.integer, word, low⟩ == 1) = true := beq_iff_eq.mpr set
      rw [bit, if_pos (one.mp set)]
      rfl
    · have bit : (Slot.intBits ⟨.integer, word, low⟩ == 1) = false := beq_eq_false_iff_ne.mpr set
      rw [bit, if_neg (mt one.mpr set)]
      rfl
  rw [written, Option.some.injEq, Slot.mk.injEq, ← UInt64.toNat_inj]
  by_cases set : word.toNat % 2 ^ 32 = 1
  · rw [if_pos set]
    simp [eq_comm]
    omega
  · rw [if_neg set]
    simp [eq_comm]
    omega

theorem encode?_eq_slot_iff (tagged : kind.tag? = some slot.tag)
    (read : kind.ofBits? slot = some value) :
    kind.encode? value = some slot ↔ slot.IsCanonical kind := by
  by_cases isBool : kind = .bool
  · cases isBool
    cases read
    have integer : slot.tag = .integer := (Option.some.inj tagged).symm
    rw [encode?_bool_iff integer, isCanonical_bool_iff integer]
  · rw [encode?_of_ofBits? tagged read isBool, Option.some.injEq, Slot.canonical_eq_iff]

end Kind

/-! ## The codec -/

namespace Objects

variable {objects : Objects} {kind : Kind} {value : Value} {slot : Slot}

theorem encode_eq_ok_iff :
    objects.encode kind value = .ok slot ↔ kind.encode? value = some slot := by
  rw [encode]
  cases kind.encode? value with
  | none => simp
  | some found => simp

theorem narrow_of_slotOf? (held : Kind.slotOf? value = some slot) :
    objects.narrow kind value = kind.decode slot := by
  rw [narrow, held]

/-- A number goes into a slot and comes back from it, from the box of the slot and from a stored
value. A slot can be read when it has the tag of the kind and, for a character, a valid code point;
reading and writing it again changes nothing exactly when it is canonical. -/
theorem numeric_codec (objects : Objects) (kind : Kind) :
    (∀ value, Kind.ofValue? value = some kind →
      ∃ slot, objects.encode kind value = .ok slot ∧ kind.decode slot = .ok value ∧
        objects.narrow kind value = .ok value ∧
        ∃ boxed, Kind.boxSlot? slot = some boxed ∧ objects.narrow kind boxed = .ok value) ∧
    (∀ slot, (∃ value, kind.decode slot = .ok value) ↔
      kind.tag? = some slot.tag ∧ (kind = .char → slot.word.toUInt32.isValidChar)) ∧
    (∀ slot value, kind.decode slot = .ok value →
      (objects.encode kind value = .ok slot ↔ slot.IsCanonical kind)) := by
  refine ⟨?written, ?readable, ?rewritten⟩
  case written =>
    intro value known
    obtain ⟨slot, encoded⟩ := Kind.encode?_isSome known
    have decoded := Kind.decode_eq_ok_iff.mpr (Kind.ofBits?_of_encode? encoded)
    have stored : Kind.slotOf? value = some slot := by rw [Kind.slotOf?, known]; exact encoded
    obtain ⟨boxed, box, boxedSlot⟩ := Kind.boxSlot?_of_encode? encoded
    exact ⟨slot, encode_eq_ok_iff.mpr encoded, decoded, (narrow_of_slotOf? stored).trans decoded,
      boxed, box, (narrow_of_slotOf? boxedSlot).trans decoded⟩
  case readable =>
    intro slot
    simp only [Kind.decode_eq_ok_iff, exists_and_left]
    exact and_congr_right Kind.ofBits?_isSome_iff
  case rewritten =>
    intro slot value decoded
    obtain ⟨tagged, read⟩ := Kind.decode_eq_ok_iff.mp decoded
    rw [encode_eq_ok_iff]
    exact Kind.encode?_eq_slot_iff tagged read

theorem int16_codec :
    (∃ slot, ({} : Objects).encode .int16 (.i16 (-2)) = .ok slot ∧
      Kind.int16.decode slot = .ok (.i16 (-2)) ∧
      ({} : Objects).narrow .int16 (.i16 (-2)) = .ok (.i16 (-2)) ∧
      ∃ boxed, Kind.boxSlot? slot = some boxed ∧
        ({} : Objects).narrow .int16 boxed = .ok (.i16 (-2))) ∧
    Kind.int16.decode { word := 0x1FFFE } = .ok (.i16 (-2)) ∧
    (({} : Objects).encode .int16 (.i16 (-2)) = .ok { word := 0x1FFFE } ↔
      ({ word := 0x1FFFE } : Slot).IsCanonical .int16) := by
  have stray : Kind.int16.decode { word := 0x1FFFE } = .ok (.i16 (-2)) := by decide
  obtain ⟨written, -, rewritten⟩ := numeric_codec {} .int16
  exact ⟨written _ rfl, stray, rewritten _ _ stray⟩

end Objects

end NativeBridge
