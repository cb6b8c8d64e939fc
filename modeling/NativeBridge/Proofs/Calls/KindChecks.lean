import NativeBridge.Proofs.Calls.WrittenCells

/-!
# Stores that check the kind

A slot takes a number of the declared kind alone. A field and a static take any value, whatever the
declared kind is.

* `run_store_eq_ok_iff`: the stores that succeed, and what they leave behind.
* `checksKind_iff`: where a store of a value of another type is refused as a type mismatch, and which
  stores succeed.
-/

namespace NativeBridge

theorem Kind.encode?_isSome_iff {kind : Kind} {value : Value} :
    (∃ slot, kind.encode? value = some slot) ↔ ofValue? value = some kind := by
  refine ⟨?_, encode?_isSome⟩
  rintro ⟨slot, encoded⟩
  rw [encode?.eq_def] at encoded
  split at encoded <;> cases encoded <;> rfl

namespace Machine

variable {machine before after : Machine} {kind : Kind} {location : Location} {value : Value}

theorem run_of_stored (stored : Stored kind value before location after) :
    before.run (store location kind value) = (.ok (), after) := by
  cases stored with
  | @number index slot numeric encoded inside =>
      have written := (@Objects.encode_eq_ok_iff before.objects _ _ _).mpr encoded
      simp only [store, numeric, if_true, run_bind, run_get, run_lift, written, run_setSlot,
        EvalStack.set_inside inside]
  | @entry index slot object found tag inside =>
      simp only [store, object, Bool.false_eq_true, if_false, storeObject, run_bind, run_get,
        run_lift, found, if_pos (And.intro tag inside), run_update, Heap.set, if_pos inside]
      rfl
  | @fresh index slot object found unowned =>
      simp only [store, object, Bool.false_eq_true, if_false, storeObject, run_bind, run_get,
        run_lift, found, if_neg unowned, run_pushHeap, run_setSlot,
        EvalStack.set_inside (EvalStack.inside_of_get found)]
  | field found written =>
      simp only [store, run_update, found, written, bind, Except.bind]
      rfl
  | static written =>
      simp only [store, run_update, written, bind, Except.bind]
      rfl

theorem run_store_eq_ok_iff : before.run (store location kind value) = (.ok (), after) ↔
    Stored kind value before location after := ⟨stored_of_run, run_of_stored⟩

inductive HasCell (machine : Machine) : Location → Prop where
  | slot {index : StackPtr} : index < machine.stack.capacity → HasCell machine (.slot index)
  | field {object field : Nat} {id : ObjectId} : machine.heap.get object = .ok (.object id) →
      field < (machine.objects.get id).fields.length → HasCell machine (.field object field)
  | static {typeId field : Nat} {type : RuntimeType} : machine.types.get typeId = .ok type →
      field < type.statics.length → HasCell machine (.static typeId field)

/-- A store of another type is refused as a type mismatch, and changes nothing. -/
def ChecksKind (machine : Machine) (location : Location) (kind : Kind) (value : Value) : Prop :=
  Kind.ofValue? value ≠ some kind → ∃ expected got,
    machine.run (store location kind value) = (.error (.typeMismatch expected got), machine)

/-- Where values are refused for their type: in a slot, and in a field of what is neither an object
nor null. -/
inductive Guards (machine : Machine) : Location → Prop where
  | slot {index : StackPtr} : Guards machine (.slot index)
  | noObject {object field : Nat} {owner : Value} : machine.heap.get object = .ok owner →
      owner.isNull = false → owner.objectId? = none → Guards machine (.field object field)

theorem stored_of_hasCell (cell : machine.HasCell location)
    (elsewhere : ∀ index, location ≠ .slot index) :
    ∃ after, Stored kind value machine location after := by
  cases cell with
  | slot => exact absurd rfl (elsewhere _)
  | field found named => exact ⟨_, .field found (Objects.setField_eq_ok_iff.mpr ⟨named, rfl⟩)⟩
  | static found named =>
      exact ⟨_, .static (TypeTable.setStatic_eq_ok_iff.mpr ⟨_, found, named, rfl⟩)⟩

theorem stored_iff (numeric : kind.isNumeric = true) :
    (∃ after, Stored kind value machine location after) ↔ machine.HasCell location ∧
      ∀ index, location = .slot index → Kind.ofValue? value = some kind := by
  constructor
  · rintro ⟨after, stored⟩
    cases stored with
    | entry object | fresh object => cases numeric.symm.trans object
    | number _ encoded inside =>
        exact ⟨.slot inside, fun _ _ => Kind.encode?_isSome_iff.mp ⟨_, encoded⟩⟩
    | field found written => exact ⟨.field found (Objects.get_of_setField written).1, nofun⟩
    | static written =>
        obtain ⟨type, found, named, -⟩ := TypeTable.get_of_setStatic written
        exact ⟨.static found named, nofun⟩
  · rintro ⟨cell, known⟩
    cases location with
    | slot index =>
        cases cell with
        | slot inside =>
            obtain ⟨slot, encoded⟩ := Kind.encode?_isSome (known index rfl)
            exact ⟨_, .number numeric encoded inside⟩
    | field object field => exact stored_of_hasCell cell nofun
    | static typeId field => exact stored_of_hasCell cell nofun

theorem run_store_slot (numeric : kind.isNumeric = true) (index : StackPtr)
    (other : Kind.ofValue? value ≠ some kind) :
    machine.run (store (.slot index) kind value) =
      (.error (.typeMismatch kind.typeName (machine.objects.describe value)), machine) := by
  have refused : machine.objects.encode kind value =
      .error (.typeMismatch kind.typeName (machine.objects.describe value)) := by
    rw [Objects.encode]
    cases encoded : kind.encode? value with
    | none => rfl
    | some slot => exact absurd (Kind.encode?_isSome_iff.mp ⟨slot, encoded⟩) other
  simp only [store, numeric, if_true, run_bind, run_get, run_lift, refused]

theorem not_hasCell_of_refused {fault : Fault}
    (refused : machine.run (store location kind value) = (.error fault, machine))
    (elsewhere : ∀ index, location ≠ .slot index) :
    ¬ machine.HasCell location := by
  intro cell
  obtain ⟨after, stored⟩ := @stored_of_hasCell machine kind location value cell elsewhere
  cases (run_of_stored stored).symm.trans refused

theorem guards_of_refused {object field : Nat} {expected got : String}
    (refused : machine.run (store (.field object field) kind value) =
      (.error (.typeMismatch expected got), machine)) : machine.Guards (.field object field) := by
  have none := not_hasCell_of_refused refused nofun
  cases found : machine.heap.get object with
  | error fault =>
      rw [Heap.get] at found
      split at found <;> cases found
      rename_i missing
      simp only [store, run_update, Heap.get, missing, bind, Except.bind] at refused
      cases refused
  | ok owner =>
      simp only [store, run_update, found, bind, Except.bind] at refused
      cases owner with
      | object id =>
          have unnamed : ¬ field < (machine.objects.get id).fields.length :=
            fun named => none (.field found named)
          simp only [Objects.setField, if_neg unnamed] at refused
          cases refused
      | null => cases refused
      | _ => exact .noObject found rfl rfl

theorem not_refused_static {typeId field : Nat} (expected got : String) :
    machine.run (store (.static typeId field) kind value) ≠
      (.error (.typeMismatch expected got), machine) := by
  intro refused
  have none := not_hasCell_of_refused refused nofun
  cases found : machine.types.get typeId with
  | error fault =>
      rw [TypeTable.get] at found
      split at found <;> cases found
      rename_i missing
      simp only [store, run_update, TypeTable.setStatic, TypeTable.get, missing, bind,
        Except.bind] at refused
      cases refused
  | ok type =>
      have unnamed : ¬ field < type.statics.length := fun named => none (.static found named)
      simp only [store, run_update, TypeTable.setStatic, found, bind, Except.bind,
        if_neg unnamed] at refused
      cases refused

/-- A store of a number succeeds when there is a cell, and a slot wants a value of the kind besides.
So a value of another type is refused as such in a slot, and nowhere else but in a field of what is
no object. -/
theorem checksKind_iff (numeric : kind.isNumeric = true) :
    ((∃ after, machine.run (store location kind value) = (.ok (), after)) ↔
      machine.HasCell location ∧
        ∀ index, location = .slot index → Kind.ofValue? value = some kind) ∧
    (machine.ChecksKind location kind value ↔
      Kind.ofValue? value = some kind ∨ machine.Guards location) := by
  refine ⟨?_, ?_⟩
  · simp only [run_store_eq_ok_iff]
    exact stored_iff numeric
  constructor
  · intro checks
    by_cases known : Kind.ofValue? value = some kind
    · exact .inl known
    · obtain ⟨expected, got, refused⟩ := checks known
      cases location with
      | slot index => exact .inr .slot
      | field object field => exact .inr (guards_of_refused refused)
      | static typeId field => exact absurd refused (not_refused_static expected got)
  · rintro (known | guards) other
    · exact absurd known other
    · cases guards with
      | slot => exact ⟨_, _, run_store_slot numeric _ other⟩
      | @noObject object field owner found notNull noObject =>
          refine ⟨"object with fields", machine.objects.describe owner, ?_⟩
          simp only [store, run_update, found, bind, Except.bind]
          cases owner with
          | null => cases notNull
          | object id => cases noObject
          | _ => rfl

theorem everywhere_checksKind : Kind.int32.isNumeric = true ∧
    (everywhere 5).ChecksKind (.slot 0) .int32 .null ∧
    ∃ after, (everywhere 5).run (store (.static 0 0) .int32 .null) = (.ok (), after) := by
  refine ⟨rfl, (checksKind_iff rfl).2.mpr (.inr .slot), ?_⟩
  exact (checksKind_iff rfl).1.mpr ⟨.static rfl Nat.zero_lt_one, nofun⟩

theorem not_always_checksKind : ¬ ∀ (machine : Machine) (location : Location) (kind : Kind)
    (value : Value), kind.isNumeric = true → machine.ChecksKind location kind value := by
  intro checks
  obtain ⟨expected, got, refused⟩ :=
    checks (everywhere 5) (.static 0 0) .int32 (.str "x") rfl nofun
  cases refused

end Machine

end NativeBridge
