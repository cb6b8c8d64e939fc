import NativeBridge.Proofs.Calls.Locations
import NativeBridge.Proofs.Calls.StackFrame

/-!
# The cell that a store writes

A store that succeeds writes one cell. A slot is written directly when the kind is numeric, and
through the heap entry that it owns otherwise; a field belongs to an object, so every heap entry
that holds the object shows the change.

* `Stored.resolve`: a slot that led to the cell still leads there.
* `Stored.changesOnly`: a store of a number changes nothing but the cell at its location.
* `numeric_store`: a number that was stored is read again, and nothing else has changed.
-/

namespace NativeBridge

/-! ## Numbers -/

namespace Kind

variable {kind : Kind} {value : Value}

theorem isNumeric_of_ofValue? (known : ofValue? value = some kind) : kind.isNumeric = true := by
  cases value <;> cases known <;> rfl

theorem objectId?_of_ofValue? (known : ofValue? value = some kind) : value.objectId? = none := by
  cases value <;> cases known <;> rfl

end Kind

/-! ## Cells -/

namespace EvalStack

variable {stack : EvalStack} {index other : StackPtr} {slot : Slot}

theorem get_set_self (inside : index < stack.capacity) :
    ({ slots := stack.slots.set index slot } : EvalStack).get index = .ok slot :=
  get_eq_ok_iff.mpr (List.getElem?_set_self inside)

theorem get_set_ne (apart : index ≠ other) :
    ({ slots := stack.slots.set index slot } : EvalStack).get other = stack.get other := by
  simp only [get, List.getElem?_set_ne apart]

theorem resolve_of_not_isReference (found : stack.get index = .ok slot)
    (plain : slot.tag.isReference = false) : stack.resolve index = .ok (.slot index) := by
  simp only [resolve, found, bind, Except.bind]
  cases tag : slot.tag <;> first | rfl | (rw [tag] at plain; cases plain)

theorem resolve_of_written {others : EvalStack} (resolved : stack.resolve index = .ok (.slot other))
    (rest : ∀ place, place ≠ other → others.get place = stack.get place)
    (written : others.get other = .ok slot) (plain : slot.tag.isReference = false) :
    others.resolve index = .ok (.slot other) := by
  by_cases same : index = other
  · subst same
    exact resolve_of_not_isReference written plain
  · obtain ⟨reference, found, ⟨tag, leads⟩ | ⟨-, itself⟩⟩ := resolve_slot resolved
    · have kept := (rest index same).trans (get_eq_ok_iff.mpr found)
      simp only [resolve, kept, bind, Except.bind, tag, ← leads, written]
      rfl
    · exact absurd itself.symm same

end EvalStack

def Instance.outline (self : Instance) : Instance :=
  self.withFields (List.replicate self.fields.length .null)

namespace Objects

variable {objects after : Objects} {id : ObjectId} {index : Nat} {value : Value}
  (written : objects.setField id index value = .ok after)

include written

theorem fields_of_setField : (after.get id).fields[index]? =
    some (TypeTable.storedIn objects (objects.get id).side value) := by
  obtain ⟨named, self⟩ := get_of_setField written
  rw [self, Instance.fields_withFields, List.getElem?_set_self named]

theorem fields_of_setField_ne {other : ObjectId} {field : Nat}
    (apart : ¬ (id = other ∧ index = field)) :
    (after.get other).fields[field]? = (objects.get other).fields[field]? := by
  by_cases same : id = other
  · subst same
    rw [(get_of_setField written).2, Instance.fields_withFields,
      List.getElem?_set_ne (not_and.mp apart rfl)]
  · rw [get_of_setField_ne written same]

theorem outline_of_setField (other : ObjectId) :
    (after.get other).outline = (objects.get other).outline := by
  by_cases same : id = other
  · subst same
    rw [(get_of_setField written).2, Instance.outline, Instance.fields_withFields, List.length_set]
    cases objects.get id <;> rfl
  · rw [get_of_setField_ne written same]

end Objects

def RuntimeType.outline (type : RuntimeType) : RuntimeType :=
  { type with statics := List.replicate type.statics.length .null }

namespace TypeTable

variable {table types : TypeTable} {objects : Objects} {typeId index : Nat} {value : Value}
  (written : table.setStatic objects typeId index value = .ok types)

include written

theorem get_of_setStatic : ∃ type, table.get typeId = .ok type ∧ index < type.statics.length ∧
    types.get typeId = .ok { type with
      statics := type.statics.set index (storedIn objects type.flavor value) } := by
  obtain ⟨type, found, named, rfl⟩ := setStatic_eq_ok_iff.mp written
  have inside := (List.getElem?_eq_some_iff.mp (get_eq_ok_iff.mp found)).1
  exact ⟨type, found, named, get_eq_ok_iff.mpr (List.getElem?_set_self inside)⟩

theorem static_of_setStatic_ne {other field : Nat} (apart : ¬ (typeId = other ∧ index = field)) :
    types.static other field = table.static other field := by
  by_cases same : typeId = other
  · subst same
    obtain ⟨type, found, -, after⟩ := get_of_setStatic written
    simp only [static, found, after, bind, Except.bind, List.getElem?_set_ne (not_and.mp apart rfl)]
  · obtain ⟨type, -, -, rfl⟩ := setStatic_eq_ok_iff.mp written
    simp only [static, get, List.getElem?_set_ne same]

theorem outlines_of_setStatic :
    types.types.map RuntimeType.outline = table.types.map RuntimeType.outline := by
  obtain ⟨type, found, -, rfl⟩ := setStatic_eq_ok_iff.mp written
  have listed := get_eq_ok_iff.mp found
  apply List.ext_getElem?
  intro other
  rw [List.getElem?_map, List.getElem?_map]
  by_cases same : typeId = other
  · subst same
    rw [List.getElem?_set_self (List.getElem?_eq_some_iff.mp listed).1, listed]
    simp only [RuntimeType.outline, Option.map_some, List.length_set]
  · rw [List.getElem?_set_ne same]

end TypeTable

namespace Machine

variable {machine before after : Machine} {kind : Kind} {location : Location} {value : Value}

theorem stored_of_run (ran : before.run (store location kind value) = (.ok (), after)) :
    Stored kind value before location after := by
  rcases run_store before location kind value with ⟨other, stored, took⟩ | ⟨fault, fails⟩
  · rw [took] at ran
    obtain ⟨-, rfl⟩ := Prod.mk.inj ran
    exact stored
  · rw [fails] at ran
    cases ran

theorem Stored.resolve (stored : Stored kind value before location after) {index : StackPtr}
    (resolved : before.stack.resolve index = .ok location) :
    after.stack.resolve index = .ok location := by
  cases stored with
  | number numeric encoded inside =>
      exact EvalStack.resolve_of_written resolved
        (fun place apart => EvalStack.get_set_ne apart.symm)
        (EvalStack.get_set_self inside) (Kind.encode?_plain encoded)
  | fresh object found =>
      exact EvalStack.resolve_of_written resolved
        (fun place apart => EvalStack.get_set_ne apart.symm)
        (EvalStack.get_set_self (EvalStack.inside_of_get found)) rfl
  | entry | field | static => exact resolved

def Names (machine : Machine) (location : Location) (id : ObjectId) (field : Nat) : Prop :=
  ∃ object, location = .field object field ∧ machine.heap.get object = .ok (.object id)

/-- Nothing but the cell at a location may differ. -/
structure ChangesOnly (location : Location) (before after : Machine) : Prop where
  capacity : after.stack.capacity = before.stack.capacity
  slots : ∀ index, location ≠ .slot index → after.stack.get index = before.stack.get index
  heap : after.heap = before.heap
  objects : ∀ id, (after.objects.get id).outline = (before.objects.get id).outline
  fields : ∀ id field, ¬ before.Names location id field →
    (after.objects.get id).fields[field]? = (before.objects.get id).fields[field]?
  live : ∀ id, after.objects.isLive id = before.objects.isLive id
  types : after.types.types.map RuntimeType.outline = before.types.types.map RuntimeType.outline
  statics : ∀ typeId field, location ≠ .static typeId field →
    after.types.static typeId field = before.types.static typeId field
  pinned : after.pinned = before.pinned
  entered : after.entered = before.entered

theorem Stored.changesOnly (stored : Stored kind value before location after)
    (numeric : kind.isNumeric = true) : ChangesOnly location before after := by
  cases stored with
  | entry object | fresh object => cases numeric.symm.trans object
  | @number index slot _ _ inside =>
      refine ⟨List.length_set .., ?_, rfl, fun _ => rfl, fun _ _ _ => rfl, fun _ => rfl, rfl,
        fun _ _ _ => rfl, rfl, rfl⟩
      intro other apart
      exact EvalStack.get_set_ne fun same => apart (congrArg Location.slot same)
  | @field object index id objects found written =>
      refine ⟨rfl, fun _ _ => rfl, rfl, Objects.outline_of_setField written, ?_,
        Objects.isLive_of_setField written, rfl, fun _ _ _ => rfl, rfl, rfl⟩
      intro other field apart
      refine Objects.fields_of_setField_ne written ?_
      rintro ⟨rfl, rfl⟩
      exact apart ⟨object, rfl, found⟩
  | @static typeId index types written =>
      refine ⟨rfl, fun _ _ => rfl, rfl, fun _ => rfl, fun _ _ _ => rfl, fun _ => rfl,
        TypeTable.outlines_of_setStatic written, ?_, rfl, rfl⟩
      intro other field apart
      refine TypeTable.static_of_setStatic_ne written ?_
      rintro ⟨rfl, rfl⟩
      exact apart rfl

theorem Stored.hasNumber (stored : Stored kind value before location after)
    (known : Kind.ofValue? value = some kind) : after.HasNumber kind value location := by
  have kept (side : Flavor) : TypeTable.storedIn before.objects side value = value :=
    before.objects.storedIn_plain side (Kind.objectId?_of_ofValue? known)
  cases stored with
  | entry object | fresh object => cases (Kind.isNumeric_of_ofValue? known).symm.trans object
  | number _ encoded inside =>
      exact .direct (EvalStack.get_set_self inside) (Objects.encode_eq_ok_iff.mpr encoded)
  | field found written =>
      exact .field found ((Objects.fields_of_setField written).trans (congrArg some (kept _)))
  | static written =>
      obtain ⟨type, -, named, after⟩ := TypeTable.get_of_setStatic written
      exact .static after ((List.getElem?_set_self named).trans (congrArg some (kept _)))

/-- A number that was stored is read again as the kind that it has, and nothing but its own cell has
changed. -/
theorem numeric_store (known : Kind.ofValue? value = some kind)
    (ran : before.run (store location kind value) = (.ok (), after)) :
    (∀ coercion, after.load location kind coercion = .ok value) ∧
      ChangesOnly location before after := by
  have stored := stored_of_run ran
  have numeric := Kind.isNumeric_of_ofValue? known
  obtain ⟨slot, encoded⟩ := Kind.encode?_isSome known
  refine ⟨?_, stored.changesOnly numeric⟩
  intro coercion
  rw [(stored.hasNumber known).load known encoded numeric]
  exact Kind.decode_eq_ok_iff.mpr (Kind.ofBits?_of_encode? encoded)

theorem everywhere_store : Kind.ofValue? (.u8 7) = some .byte ∧
    ∃ after, (everywhere 5).run (store (.slot 1) .byte (.u8 7)) = (.ok (), after) ∧
      after.load (.slot 1) .byte none = .ok (.u8 7) ∧
      after.load (.slot 2) .int32 none = .ok (.i32 5) ∧
      ChangesOnly (.slot 1) (everywhere 5) after := by
  obtain ⟨loads, only⟩ := @numeric_store (everywhere 5) _ .byte (.slot 1) (.u8 7) rfl rfl
  exact ⟨rfl, _, rfl, loads none, rfl, only⟩

end Machine

end NativeBridge
