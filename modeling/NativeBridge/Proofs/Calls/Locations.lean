import NativeBridge.Proofs.Calls.Agreement
import NativeBridge.Proofs.Machine.Forms
import NativeBridge.Proofs.Machine.NumericCodec

/-!
# What stands at a location

A read finds a value at its location and converts it. A number that sits in a slot by itself is
read as its box would be.

* `load_eq`: every read converts the value that stands at the location.
* `load_of_same`: a read does not notice that objects have ended.
* `numeric_load`: a number is read as its slot is decoded, wherever it is kept.
-/

namespace NativeBridge

/-! ## Boxes of slots -/

namespace Kind

variable {kind : Kind} {slot other : Slot}

theorem decode_congr (tag : slot.tag = other.tag)
    (low : slot.word.toUInt32 = other.word.toUInt32)
    (word : slot.tag.width = 64 → slot.word = other.word) :
    kind.decode slot = kind.decode other := by
  have bits (tagged : kind.tag? = some slot.tag) : kind.ofBits? slot = kind.ofBits? other := by
    have wide : kind.tag? = some .long ∨ kind.tag? = some .double → slot.word = other.word := by
      rintro (long | double)
      · exact word (Option.some.inj (long.symm.trans tagged) ▸ rfl)
      · exact word (Option.some.inj (double.symm.trans tagged) ▸ rfl)
    cases kind <;>
      simp_all [ofBits?, tag?, Slot.intBits, Slot.longBits, Slot.floatBits, Slot.doubleBits]
  rw [decode, decode, ← tag, low]
  cases tagged : kind.tag? with
  | none => rfl
  | some expected =>
      simp only
      by_cases same : slot.tag = expected
      · rw [bits (tagged.trans (congrArg some same.symm))]
      · rw [if_pos same, if_pos same]

theorem decode_of_boxSlot? {boxed : Value} (box : boxSlot? slot = some boxed) (kind : Kind) :
    ∃ kept, slotOf? boxed = some kept ∧ kind.decode kept = kind.decode slot := by
  rw [boxSlot?] at box
  split at box
  all_goals cases box
  all_goals refine ⟨_, rfl, decode_congr ?_ ?_ ?_⟩
  all_goals simp_all [Slot.integer, Slot.intBits, Slot.long, Slot.longBits, Slot.float,
    Slot.floatBits, Slot.double, Slot.doubleBits, Tag.width, -UInt64.toUInt64_toUInt32]

end Kind

namespace Machine

/-- The value that stands at a location, before any conversion. The kind is of account to the fault
over a reference to another slot only. -/
def valueAt (machine : Machine) (kind : Kind) : Location → Except Fault Value
  | .slot index => do machine.slotValue kind (← machine.stack.get index)
  | .field object field => machine.fieldValue object field
  | .static typeId field => machine.types.static typeId field

variable {machine other : Machine} {kind own : Kind} {location : Location} {value : Value}

theorem slotValue_of_boxSlot? {slot : Slot} (box : Kind.boxSlot? slot = some value) :
    machine.slotValue kind slot = .ok value := by
  rw [slotValue]
  split
  case h_5 => rw [box]; rfl
  all_goals
    rename_i tag
    rw [Kind.boxSlot?, tag] at box
    cases box

theorem valueAt_of_objectReference {index : StackPtr} {slot : Slot}
    (found : machine.stack.get index = .ok slot) (tag : slot.tag = .objectReference) :
    machine.valueAt kind (.slot index) = machine.heap.get slot.index := by
  simp only [valueAt, found, bind, Except.bind, slotValue, tag]

theorem load_eq (machine : Machine) (location : Location) (kind : Kind)
    (coercion : Option Coercion) :
    machine.load location kind coercion = (do
      convert machine.objects kind coercion (← machine.valueAt kind location)) := by
  cases location with
  | slot index =>
      simp only [load, valueAt]
      cases machine.stack.get index with
      | error fault => rfl
      | ok slot =>
          simp only [bind, Except.bind]
          split
          · rename_i direct
            obtain ⟨numeric, boxed⟩ := Bool.and_eq_true_iff.mp direct
            obtain ⟨value, box⟩ := Option.isSome_iff_exists.mp boxed
            obtain ⟨kept, known, decoded⟩ := Kind.decode_of_boxSlot? box kind
            rw [slotValue_of_boxSlot? box]
            simp only [convert, if_pos numeric, Objects.narrow_of_slotOf? known, decoded]
          · rfl
  | field object field => rfl
  | static typeId field => rfl

theorem convert_of_shells {objects others : Objects}
    (same : ∀ id, (others.get id).shell = (objects.get id).shell) (kind : Kind)
    (coercion : Option Coercion) (value : Value) :
    convert others kind coercion value = convert objects kind coercion value := by
  cases coercion with
  | none => simp only [convert, Objects.narrow_of_shells same]
  | some coercion =>
      simp only [convert, Objects.narrow_of_shells same, coercion.apply_of_shells same]

/-! ## Objects that have ended -/

theorem Same.get (same : machine.Same other) (id : ObjectId) :
    machine.objects.get id = other.objects.get id :=
  Objects.get_of_contents same.contents id

theorem fieldValue_of_same (same : machine.Same other) (object field : Nat) :
    machine.fieldValue object field = other.fieldValue object field := by
  have owner (owner : Value) : noFields machine.objects object field owner =
      noFields other.objects object field owner := by
    cases owner <;> simp only [noFields, Objects.describe_of_contents same.contents]
  simp only [fieldValue, same.heap, Objects.field, same.get, owner]

theorem valueAt_of_same (same : machine.Same other) (kind : Kind) (location : Location) :
    machine.valueAt kind location = other.valueAt kind location := by
  cases location with
  | slot index =>
      simp only [valueAt, slotValue, same.stack, same.heap, same.types, fieldValue_of_same same]
  | field object field => exact fieldValue_of_same same object field
  | static typeId field => simp only [valueAt, same.types]

theorem load_of_same (same : machine.Same other) (location : Location) (kind : Kind)
    (coercion : Option Coercion) :
    machine.load location kind coercion = other.load location kind coercion := by
  have shells (id : ObjectId) : (machine.objects.get id).shell = (other.objects.get id).shell := by
    rw [same.get]
  rw [load_eq, load_eq, valueAt_of_same same]
  simp only [convert_of_shells shells]

/-! ## Numbers -/

/-- Where a number can be kept: in a slot by itself, in a heap entry behind a slot, and in a field
or a static, at its own location or behind a slot that refers to it. -/
inductive HasNumber (machine : Machine) (own : Kind) (value : Value) : Location → Prop where
  | direct {index : StackPtr} {slot : Slot} : machine.stack.get index = .ok slot →
      machine.objects.encode own value = .ok slot → HasNumber machine own value (.slot index)
  | boxed {index : StackPtr} {slot : Slot} : machine.stack.get index = .ok slot →
      slot.tag = .objectReference → machine.heap.get slot.index = .ok value →
      HasNumber machine own value (.slot index)
  | field {object field : Nat} {id : ObjectId} : machine.heap.get object = .ok (.object id) →
      (machine.objects.get id).fields[field]? = some value →
      HasNumber machine own value (.field object field)
  | fieldReference {index : StackPtr} {slot : Slot} : machine.stack.get index = .ok slot →
      slot.tag = .fieldReference → HasNumber machine own value (.field slot.index slot.field) →
      HasNumber machine own value (.slot index)
  | static {typeId field : Nat} {type : RuntimeType} : machine.types.get typeId = .ok type →
      type.statics[field]? = some value → HasNumber machine own value (.static typeId field)
  | staticReference {index : StackPtr} {slot : Slot} : machine.stack.get index = .ok slot →
      slot.tag = .staticFieldReference →
      HasNumber machine own value (.static slot.typeId slot.field) →
      HasNumber machine own value (.slot index)

theorem HasNumber.valueAt (has : machine.HasNumber own value location)
    (known : Kind.ofValue? value = some own) {slot : Slot}
    (encoded : own.encode? value = some slot) (kind : Kind) :
    ∃ stored, machine.valueAt kind location = .ok stored ∧ Kind.slotOf? stored = some slot := by
  have itself : Kind.slotOf? value = some slot := by
    rw [Kind.slotOf?, known]
    exact encoded
  induction has with
  | direct found direct =>
      obtain rfl := Option.some.inj (encoded.symm.trans (Objects.encode_eq_ok_iff.mp direct))
      obtain ⟨boxed, box, through⟩ := Kind.boxSlot?_of_encode? encoded
      refine ⟨boxed, ?_, through⟩
      simp only [Machine.valueAt, found, bind, Except.bind, slotValue_of_boxSlot? box]
  | boxed found tag held => exact ⟨value, (valueAt_of_objectReference found tag).trans held, itself⟩
  | field owner held =>
      refine ⟨value, ?_, itself⟩
      simp only [Machine.valueAt, fieldValue, owner, bind, Except.bind, Objects.field, held]
  | static type held =>
      refine ⟨value, ?_, itself⟩
      simp only [Machine.valueAt, TypeTable.static, type, bind, Except.bind, held]
      rfl
  | fieldReference found tag has ih | staticReference found tag has ih =>
      obtain ⟨stored, behind, through⟩ := ih
      refine ⟨stored, ?_, through⟩
      simp only [Machine.valueAt] at behind
      simp only [Machine.valueAt, found, bind, Except.bind, slotValue, tag, behind]

theorem HasNumber.load {slot : Slot} (has : machine.HasNumber own value location)
    (known : Kind.ofValue? value = some own) (encoded : own.encode? value = some slot)
    (numeric : kind.isNumeric = true) (coercion : Option Coercion) :
    machine.load location kind coercion = kind.decode slot := by
  obtain ⟨stored, stands, through⟩ := has.valueAt known encoded kind
  rw [load_eq, stands]
  simp only [bind, Except.bind, convert, if_pos numeric, Objects.narrow_of_slotOf? through]

/-- A number is read as its own slot is decoded, in whatever machine and wherever there it is kept:
the same value or the same fault. Read as the kind that it has, it is the number itself. -/
theorem numeric_load (numeric : kind.isNumeric = true) (known : Kind.ofValue? value = some own) :
    ∃ slot, own.encode? value = some slot ∧ (kind = own → kind.decode slot = .ok value) ∧
      ∀ (machine : Machine) (location : Location) (coercion : Option Coercion),
        machine.HasNumber own value location →
          machine.load location kind coercion = kind.decode slot := by
  obtain ⟨slot, encoded⟩ := Kind.encode?_isSome known
  refine ⟨slot, encoded, ?_, ?_⟩
  · rintro rfl
    exact Kind.decode_eq_ok_iff.mpr (Kind.ofBits?_of_encode? encoded)
  · intro machine location coercion has
    exact has.load known encoded numeric coercion

def everywhere (number : Int32) : Machine where
  stack := { slots := [.integer number, .object 0, .fieldReference 1 0, .staticFieldReference 0 0] }
  heap := { entries := [{ value := .i32 number }, { value := .object 0 }] }
  objects := { cells := [{ content := .script { typeName := "Counter", fields := [.i32 number] } }] }
  types := { types := [{ name := "Settings", flavor := .native, statics := [.i32 number] }] }

theorem hasNumber_everywhere (number : Int32) :
    ∀ location ∈ [.slot 0, .slot 1, .slot 2, .slot 3, .field 1 0, .static 0 0],
      (everywhere number).HasNumber .int32 (.i32 number) location := by
  have field : (everywhere number).HasNumber .int32 (.i32 number) (.field 1 0) := .field rfl rfl
  have static : (everywhere number).HasNumber .int32 (.i32 number) (.static 0 0) := .static rfl rfl
  simp only [List.mem_cons, List.not_mem_nil, or_false]
  rintro location (rfl | rfl | rfl | rfl | rfl | rfl)
  · exact .direct rfl rfl
  · exact .boxed rfl rfl rfl
  · exact .fieldReference rfl rfl field
  · exact .staticReference rfl rfl static
  · exact field
  · exact static

theorem everywhere_load : Kind.int16.isNumeric = true ∧ Kind.char.isNumeric = true ∧
    Kind.ofValue? (.i32 0xD800) = some .int32 ∧
    ∀ location ∈ [.slot 0, .slot 1, .slot 2, .slot 3, .field 1 0, .static 0 0],
      (everywhere 0xD800).load location .int16 none = .ok (.i16 (-0x2800)) ∧
      (everywhere 0xD800).load location .char none =
        .error (.typeMismatch "char" "invalid scalar value 0xd800") := by
  refine ⟨rfl, rfl, rfl, ?_⟩
  intro location listed
  have has := hasNumber_everywhere 0xD800 location listed
  obtain ⟨_, ⟨⟩, -, short⟩ := @numeric_load .int16 _ (.i32 0xD800) rfl rfl
  obtain ⟨_, ⟨⟩, -, char⟩ := @numeric_load .char _ (.i32 0xD800) rfl rfl
  exact ⟨(short _ location none has).trans (by decide), (char _ location none has).trans (by decide)⟩

end Machine

end NativeBridge
