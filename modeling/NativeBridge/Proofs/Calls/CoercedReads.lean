import NativeBridge.Proofs.Calls.Locations

/-!
# Objects that are read

The coercion of a parameter is all that stands between a stored value and native code. It looks at
the value alone, not at the cell that the value comes from.

* `Coercion.apply_eq_ok_iff`, `Coercion.apply_refused`: what a coercion takes, and the fault over
  everything else.
* `Machine.hasValue_iff`: which value stands at a location.
* `Machine.coerced_load`: what native code receives from a location.
-/

namespace NativeBridge

def Objects.IsA (objects : Objects) (id : ObjectId) (target : String) : Prop :=
  ∃ self, objects.get id = .native self ∧ (self.typeName = target ∨ target ∈ self.assignableTo)

theorem Objects.isA_iff {objects : Objects} {id : ObjectId} {target : String} :
    objects.IsA id target ↔ objects.isInstanceOf id target = true := by
  rw [IsA, isInstanceOf, native?]
  cases objects.get id with
  | script self => simp
  | native self => simp [NativeInstance.isInstanceOf]

namespace Coercion

variable {coercion : Coercion} {objects : Objects} {value taken : Value} {id : ObjectId}

def IsNative (coercion : Coercion) : Prop := coercion.mode = .classType ∨ coercion.mode = .struct

/-- The stored values that a coercion takes, each with what native code receives for it. -/
inductive Takes (coercion : Coercion) (objects : Objects) : Value → Value → Prop where
  | universal (value : Value) : coercion.mode = .any → Takes coercion objects value value
  | null : coercion.mode ≠ .struct → Takes coercion objects .null .null
  | text (text : String) : coercion.mode = .string →
      Takes coercion objects (.str text) (.str text)
  | script {id : ObjectId} {self : ScriptInstance} : coercion.mode = .script →
      objects.get id = .script self → Takes coercion objects (.object id) (.object id)
  | native {id : ObjectId} : coercion.IsNative → objects.IsA id coercion.target →
      Takes coercion objects (.object id) (.object id)
  | adapter {id adapter : ObjectId} {self : ScriptInstance} : coercion.IsNative →
      objects.get id = .script self → self.adapter = some adapter →
      objects.IsA adapter coercion.target → Takes coercion objects (.object id) (.object adapter)

theorem IsNative.mode_ne (native : coercion.IsNative) :
    coercion.mode ≠ .any ∧ coercion.mode ≠ .string ∧ coercion.mode ≠ .script := by
  rcases native with mode | mode <;> simp [mode]

theorem adapt_takes (native : coercion.IsNative) :
    coercion.adapt objects id = .ok taken ↔ coercion.Takes objects (.object id) taken := by
  rw [adapt_eq_ok_iff]
  constructor
  · rintro ⟨object, rfl, fits, rfl | link⟩
    · exact .native native (Objects.isA_iff.mpr fits)
    · rw [Objects.adapter?] at link
      cases content : objects.get id with
      | script self =>
          rw [content] at link
          exact .adapter native content link (Objects.isA_iff.mpr fits)
      | native self =>
          rw [content] at link
          cases link
  · intro takes
    cases takes with
    | universal _ mode => exact absurd mode native.mode_ne.1
    | script mode => exact absurd mode native.mode_ne.2.2
    | native _ fits => exact ⟨id, rfl, Objects.isA_iff.mp fits, .inl rfl⟩
    | adapter _ content link fits =>
        refine ⟨_, rfl, Objects.isA_iff.mp fits, .inr ?_⟩
        rwa [Objects.adapter?, content]

theorem apply_object (native : coercion.IsNative) (id : ObjectId) :
    coercion.apply objects (.object id) = coercion.adapt objects id := by
  rcases native with mode | mode <;> simp only [apply, mode]

theorem takes_of_apply (accepted : coercion.apply objects value = .ok taken) :
    coercion.Takes objects value taken := by
  cases value with
  | null =>
      cases mode : coercion.mode <;> simp only [apply, mode] at accepted <;> cases accepted <;>
        exact .null (by simp [mode])
  | str text =>
      cases mode : coercion.mode <;> simp only [apply, mode, mismatch] at accepted <;>
        cases accepted
      · exact .universal _ mode
      · exact .text _ mode
  | object id =>
      cases mode : coercion.mode with
      | any =>
          simp only [apply, mode] at accepted
          cases accepted
          exact .universal _ mode
      | script =>
          obtain ⟨rfl, script⟩ := (apply_script_eq_ok_iff mode).mp accepted
          cases content : objects.get id with
          | script self => exact .script mode content
          | native self =>
              rw [content] at script
              cases script
      | string =>
          simp only [apply, mode] at accepted
          cases accepted
      | classType =>
          have native : coercion.IsNative := .inl mode
          exact (adapt_takes native).mp (apply_object native id ▸ accepted)
      | struct =>
          have native : coercion.IsNative := .inr mode
          exact (adapt_takes native).mp (apply_object native id ▸ accepted)
  -- A number is taken as it is or not at all.
  | _ =>
      cases mode : coercion.mode <;> simp only [apply, mode, mismatch] at accepted <;>
        cases accepted
      exact .universal _ mode

theorem apply_of_takes (takes : coercion.Takes objects value taken) :
    coercion.apply objects value = .ok taken := by
  cases takes with
  | universal value mode => simp only [apply, mode]
  | null nullable => cases mode : coercion.mode <;> simp_all [apply]
  | text text mode => simp only [apply, mode]
  | script mode content =>
      refine (apply_script_eq_ok_iff mode).mpr ⟨rfl, ?_⟩
      rw [content]
      rfl
  | native native fits =>
      rw [apply_object native]
      exact (adapt_takes native).mpr (.native native fits)
  | adapter native content link fits =>
      rw [apply_object native]
      exact (adapt_takes native).mpr (.adapter native content link fits)

theorem apply_eq_ok_iff :
    coercion.apply objects value = .ok taken ↔ coercion.Takes objects value taken :=
  ⟨takes_of_apply, apply_of_takes⟩

theorem Takes.again (takes : coercion.Takes objects value taken) :
    coercion.Takes objects taken taken := by
  cases takes with
  | universal value mode => exact .universal value mode
  | null nullable => exact .null nullable
  | text text mode => exact .text text mode
  | script mode content => exact .script mode content
  | native native fits => exact .native native fits
  | adapter native _ _ fits => exact .native native fits

def refusal (coercion : Coercion) (objects : Objects) : Value → Fault
  | .null => .nullReference ("value of type " ++ coercion.target)
  | value => .typeMismatch coercion.target (objects.describe value)

theorem adapt_eq_error {fault : Fault} (failed : coercion.adapt objects id = .error fault) :
    fault = coercion.refusal objects (.object id) := by
  rw [adapt] at failed
  split at failed <;> split at failed
  · cases failed
  · exact (Except.error.inj failed).symm
  · split at failed
    · cases failed
    · exact (Except.error.inj failed).symm
  · exact (Except.error.inj failed).symm

theorem apply_eq_error {fault : Fault} (failed : coercion.apply objects value = .error fault) :
    fault = coercion.refusal objects value := by
  cases mode : coercion.mode <;> cases value <;> simp only [apply, mode, mismatch] at failed
  case classType.object id | struct.object id => exact adapt_eq_error failed
  case script.object id =>
    split at failed
    · cases failed
    · exact (Except.error.inj failed).symm
  all_goals cases failed <;> rfl

theorem apply_refused (refused : ∀ taken, ¬ coercion.Takes objects value taken) :
    coercion.apply objects value = .error (coercion.refusal objects value) := by
  cases applied : coercion.apply objects value with
  | ok taken => exact absurd (takes_of_apply applied) (refused taken)
  | error fault => rw [apply_eq_error applied]

theorem Takes.received (takes : coercion.Takes objects value taken) (native : coercion.IsNative) :
    (∃ id, taken = .object id ∧ objects.IsA id coercion.target) ∨
      taken = .null ∧ coercion.mode = .classType := by
  cases takes with
  | universal _ mode => exact absurd mode native.mode_ne.1
  | null nullable => exact .inr ⟨rfl, native.resolve_right nullable⟩
  | text _ mode => exact absurd mode native.mode_ne.2.1
  | script mode => exact absurd mode native.mode_ne.2.2
  | native _ fits => exact .inl ⟨_, rfl, fits⟩
  | adapter _ _ _ fits => exact .inl ⟨_, rfl, fits⟩

end Coercion

namespace Machine

variable {machine : Machine} {location : Location} {kind : Kind} {value : Value}

/-- The value that is stored at a location. A slot holds a number by itself, and leads to a heap
entry, a field or a static otherwise; a slot that refers to another slot holds nothing. -/
inductive HasValue (machine : Machine) (value : Value) : Location → Prop where
  | number {index : StackPtr} {slot : Slot} : machine.stack.get index = .ok slot →
      Kind.boxSlot? slot = some value → HasValue machine value (.slot index)
  | entry {index : StackPtr} {slot : Slot} : machine.stack.get index = .ok slot →
      slot.tag = .objectReference → machine.heap.get slot.index = .ok value →
      HasValue machine value (.slot index)
  | fieldReference {index : StackPtr} {slot : Slot} : machine.stack.get index = .ok slot →
      slot.tag = .fieldReference → HasValue machine value (.field slot.index slot.field) →
      HasValue machine value (.slot index)
  | staticReference {index : StackPtr} {slot : Slot} : machine.stack.get index = .ok slot →
      slot.tag = .staticFieldReference → HasValue machine value (.static slot.typeId slot.field) →
      HasValue machine value (.slot index)
  | field {object field : Nat} {id : ObjectId} : machine.heap.get object = .ok (.object id) →
      (machine.objects.get id).fields[field]? = some value →
      HasValue machine value (.field object field)
  | static {typeId field : Nat} {type : RuntimeType} : machine.types.get typeId = .ok type →
      type.statics[field]? = some value → HasValue machine value (.static typeId field)

theorem HasValue.valueAt (has : machine.HasValue value location) (kind : Kind) :
    machine.valueAt kind location = .ok value := by
  induction has with
  | number found box =>
      simp only [Machine.valueAt, found, bind, Except.bind, slotValue_of_boxSlot? box]
  | entry found tag held => exact (valueAt_of_objectReference found tag).trans held
  | fieldReference found tag _ ih | staticReference found tag _ ih =>
      simp only [Machine.valueAt] at ih
      simp only [Machine.valueAt, found, bind, Except.bind, slotValue, tag, ih]
  | field owner held =>
      simp only [Machine.valueAt, fieldValue, owner, bind, Except.bind, Objects.field, held]
  | static type held =>
      simp only [Machine.valueAt, TypeTable.static, type, bind, Except.bind, held]
      rfl

theorem hasValue_field {object field : Nat} (read : machine.fieldValue object field = .ok value) :
    machine.HasValue value (.field object field) := by
  rw [fieldValue] at read
  obtain ⟨owner, found, read⟩ := bind_eq_ok.mp read
  cases owner with
  | object id =>
      simp only [Objects.field] at read
      split at read
      · rename_i held
        cases read
        exact .field found held
      · cases read
  | _ => cases read

theorem hasValue_static {typeId field : Nat}
    (read : machine.types.static typeId field = .ok value) :
    machine.HasValue value (.static typeId field) := by
  rw [TypeTable.static] at read
  obtain ⟨type, found, read⟩ := bind_eq_ok.mp read
  split at read
  · rename_i held
    cases read
    exact .static found held
  · cases read

theorem hasValue_slot {index : StackPtr} {slot : Slot} (found : machine.stack.get index = .ok slot)
    (read : machine.slotValue kind slot = .ok value) : machine.HasValue value (.slot index) := by
  cases box : Kind.boxSlot? slot with
  | some boxed =>
      rw [slotValue_of_boxSlot? box] at read
      cases read
      exact .number found box
  | none =>
      rw [slotValue] at read
      split at read
      · exact .entry found ‹_› read
      · exact .fieldReference found ‹_› (hasValue_field read)
      · exact .staticReference found ‹_› (hasValue_static read)
      · cases read
      · rw [Kind.boxSlot?] at box
        cases tag : slot.tag <;> simp_all

theorem hasValue_iff (kind : Kind) :
    machine.HasValue value location ↔ machine.valueAt kind location = .ok value := by
  refine ⟨fun has => has.valueAt kind, ?_⟩
  intro read
  cases location with
  | slot index =>
      obtain ⟨slot, found, read⟩ := bind_eq_ok.mp read
      exact hasValue_slot found read
  | field object field => exact hasValue_field read
  | static typeId field => exact hasValue_static read

/-- A read takes what its coercion takes, wherever the value is stored. What native code receives
for a class or a struct of its own is an object of that type, or null for a class. Every other value
is refused, and what was received is received again. -/
theorem coerced_load (machine : Machine) (location : Location) (coercion : Coercion) :
    (∀ taken, machine.load location .object (some coercion) = .ok taken ↔
      ∃ value, machine.HasValue value location ∧ coercion.Takes machine.objects value taken) ∧
    (∀ value, machine.HasValue value location →
      (∀ taken, ¬ coercion.Takes machine.objects value taken) →
      machine.load location .object (some coercion) =
        .error (coercion.refusal machine.objects value)) ∧
    (coercion.IsNative → ∀ taken, machine.load location .object (some coercion) = .ok taken →
      (∃ id, taken = .object id ∧ machine.objects.IsA id coercion.target) ∨
        taken = .null ∧ coercion.mode = .classType) ∧
    ∀ objects value taken, coercion.apply objects value = .ok taken →
      coercion.apply objects taken = .ok taken := by
  have loads (taken : Value) : machine.load location .object (some coercion) = .ok taken ↔
      ∃ value, machine.HasValue value location ∧ coercion.Takes machine.objects value taken := by
    rw [load_eq, bind_eq_ok]
    simp only [← hasValue_iff, ← Coercion.apply_eq_ok_iff]
    rfl
  refine ⟨loads, ?_, ?_, ?_⟩
  · intro value has refused
    rw [load_eq, has.valueAt]
    exact coercion.apply_refused refused
  · intro native taken load
    obtain ⟨value, -, takes⟩ := (loads taken).mp load
    exact takes.received native
  · intro objects value taken accepted
    exact Coercion.apply_of_takes (Coercion.takes_of_apply accepted).again

def enlisted : Machine where
  stack := { slots := [.integer 7, .object 0, .staticFieldReference 0 0] }
  heap := { entries := [{ value := .object 0 }] }
  objects := (Objects.addAdapted {} "Enemy" 0 "Actor" []).2
  types := { types := [{ name := "Settings", flavor := .native, statics := [.null] }] }

theorem enlisted_load :
    enlisted.load (.slot 1) .object (some ⟨"Actor", .classType⟩) = .ok (.object 1) ∧
    (∃ id, Value.object 1 = .object id ∧ enlisted.objects.IsA id "Actor") ∧
    Coercion.apply ⟨"Actor", .classType⟩ enlisted.objects (.object 1) = .ok (.object 1) ∧
    enlisted.load (.slot 0) .object (some ⟨"Actor", .classType⟩) =
      .error (.typeMismatch "Actor" "i32") ∧
    enlisted.load (.slot 2) .object (some ⟨"Actor", .struct⟩) =
      .error (.nullReference "value of type Actor") := by
  have native : Coercion.IsNative ⟨"Actor", .classType⟩ := .inl rfl
  obtain ⟨loads, -, received, again⟩ := coerced_load enlisted (.slot 1) ⟨"Actor", .classType⟩
  have load := (loads (.object 1)).mpr
    ⟨.object 0, .entry rfl rfl rfl, .adapter native rfl rfl ⟨_, rfl, .inl rfl⟩⟩
  refine ⟨load, ?_, again enlisted.objects (.object 0) _ rfl, ?_, ?_⟩
  · rcases received native _ load with object | ⟨null, -⟩
    · exact object
    · cases null
  · refine (coerced_load enlisted (.slot 0) ⟨"Actor", .classType⟩).2.1 (.i32 7)
      (.number rfl rfl) ?_
    intro taken takes
    cases takes with
    | universal _ mode => cases mode
  · refine (coerced_load enlisted (.slot 2) ⟨"Actor", .struct⟩).2.1 .null
      (.staticReference rfl rfl (.static rfl rfl)) ?_
    intro taken takes
    cases takes with
    | universal _ mode => cases mode
    | null nullable => exact nullable rfl

end Machine

end NativeBridge
