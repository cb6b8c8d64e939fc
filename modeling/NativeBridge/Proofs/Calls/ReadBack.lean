import NativeBridge.Proofs.Calls.Boundary
import NativeBridge.Proofs.Calls.HeapEffect
import NativeBridge.Proofs.Calls.WrittenCells

/-!
# Objects that are read back

A cell keeps an object in the form of the side that owns the cell. A parameter of the same type takes
that form as it took the object itself, with one exception: a cell of native code keeps the adapter
of a script instance, and no adapter is taken for a script instance.

* `Stored.valueAt`: what stands at a location after an object was stored there.
* `Stored.load_object`: what a coercion makes of it.
* `object_store`: an object that was stored is read back, or is hidden by its adapter.
-/

namespace NativeBridge

/-- The adapter of a script instance hides it from a coercion: native code keeps the adapter, and a
script instance is to be read. -/
def Coercion.Hides (coercion : Coercion) (objects : Objects) (side : Flavor) (value : Value)
    (adapter : ObjectId) : Prop :=
  coercion.mode = .script ∧ side = .native ∧
    ∃ script, value = .object script ∧ objects.adapter? script = some adapter

namespace Machine

variable {machine before after : Machine} {location : Location} {coercion : Coercion}
  {value taken : Value} {side : Flavor}

def sideOf? (machine : Machine) : Location → Option Flavor
  | .slot _ => some .script
  | .field object _ =>
      match machine.heap.get object with
      | .ok (.object id) => some (machine.objects.get id).side
      | _ => none
  | .static typeId _ =>
      match machine.types.get typeId with
      | .ok type => some type.flavor
      | .error _ => none

theorem Stored.valueAt (stored : Stored .object value before location after)
    (room : before.heap.size < UInt64.size) :
    ∃ side, before.sideOf? location = some side ∧
      after.valueAt .object location = .ok (TypeTable.storedIn before.objects side value) := by
  cases stored with
  | number numeric => cases numeric
  | entry _ found tag inside =>
      refine ⟨.script, rfl, (valueAt_of_objectReference (by exact found) tag).trans ?_⟩
      exact Heap.get_eq_ok_iff.mpr ⟨_, List.getElem?_set_self inside, rfl⟩
  | fresh _ found =>
      have inside := EvalStack.inside_of_get found
      refine ⟨.script, rfl,
        (valueAt_of_objectReference (by exact EvalStack.get_set_self inside) rfl).trans ?_⟩
      rw [Slot.index_object room]
      exact before.heap.get_push _
  | field found written =>
      refine ⟨_, by simp only [sideOf?, found]; rfl, ?_⟩
      simp only [Machine.valueAt, fieldValue, found, bind, Except.bind, Objects.field,
        Objects.fields_of_setField written]
  | static written =>
      obtain ⟨type, found, named, after⟩ := TypeTable.get_of_setStatic written
      refine ⟨type.flavor, by simp only [sideOf?, found], ?_⟩
      simp only [Machine.valueAt, TypeTable.static, after, bind, Except.bind,
        List.getElem?_set_self named]
      rfl

theorem Stored.shells {kind : Kind} (stored : Stored kind value before location after)
    (id : ObjectId) : (after.objects.get id).shell = (before.objects.get id).shell := by
  obtain ⟨keeps, size⟩ := stored.keeps
  by_cases inside : id < before.objects.cells.length
  · exact keeps.shell id inside
  · rw [Objects.get_of_outside inside, Objects.get_of_outside (size ▸ inside)]

theorem Stored.load_object (stored : Stored .object value before location after)
    (room : before.heap.size < UInt64.size) :
    ∃ side, before.sideOf? location = some side ∧ ∀ coercion : Coercion,
      after.load location .object (some coercion) =
        coercion.apply before.objects (TypeTable.storedIn before.objects side value) := by
  obtain ⟨side, owner, stands⟩ := stored.valueAt room
  refine ⟨side, owner, ?_⟩
  intro coercion
  rw [load_eq, stands]
  exact coercion.apply_of_shells stored.shells _

theorem loadSlot_of_resolve {index : StackPtr} {kind : Kind} {coercion : Option Coercion}
    (resolved : machine.stack.resolve index = .ok location) :
    machine.loadSlot true index kind coercion = machine.load location kind coercion := by
  simp only [loadSlot, EvalStack.locate, if_true, resolved, bind, Except.bind]

/-- An object that a coercion took and that was stored is read back by the same coercion: the same
object, and in the same form unless the coercion takes every form. A slot that led to the cell reads
it as well, even after objects have ended. Only a script instance that its adapter hides is not read
back. -/
theorem object_store (paired : before.objects.Paired) (room : before.heap.size < UInt64.size)
    (accepted : coercion.apply before.objects value = .ok taken)
    (ran : before.run (store location .object value) = (.ok (), after)) :
    ∃ side result, before.sideOf? location = some side ∧
      after.load location .object (some coercion) = result ∧
      (∀ index held, before.stack.resolve index = .ok location →
        (after.collect held).loadSlot true index .object (some coercion) = result) ∧
      ((∀ adapter, ¬ coercion.Hides before.objects side value adapter) →
        ∃ read, result = .ok read ∧ before.objects.SameObject read taken ∧
          (coercion.mode ≠ .any → read = taken)) ∧
      ∀ adapter, coercion.Hides before.objects side value adapter →
        result = .error (.typeMismatch coercion.target (before.objects.get adapter).typeName) := by
  have stored := stored_of_run ran
  obtain ⟨side, owner, loads⟩ := stored.load_object room
  refine ⟨side, _, owner, loads coercion, ?_, ?_, ?_⟩
  · intro index held resolved
    have led : (after.collect held).stack.resolve index = .ok location := stored.resolve resolved
    rw [loadSlot_of_resolve led, load_of_same ((Same.refl after).collect held), loads]
  · intro shown
    refine Coercion.apply_storedIn paired accepted side ?_
    intro mode native id same
    cases link : before.objects.adapter? id with
    | none => rfl
    | some adapter => exact absurd ⟨mode, native, id, same, link⟩ (shown adapter)
  · rintro adapter ⟨mode, rfl, script, rfl, link⟩
    exact Coercion.apply_storedIn_script paired mode link

def mirrored : Machine where
  stack := { slots := [.staticFieldReference 0 0] }
  objects := (Objects.addAdapted {} "Enemy" 0 "Actor" []).2
  types := { types := [{ name := "Settings", flavor := .native, statics := [.null] }] }

theorem made_mirrored : mirrored.objects.Made := .adapted "Enemy" 0 "Actor" [] .none

theorem mirrored_store : mirrored.objects.Paired ∧ mirrored.heap.size < UInt64.size ∧
    Coercion.apply ⟨"Actor", .classType⟩ mirrored.objects (.object 0) = .ok (.object 1) ∧
    ∃ after, mirrored.run (store (.static 0 0) .object (.object 0)) = (.ok (), after) ∧
      after.load (.static 0 0) .object (some ⟨"Actor", .classType⟩) = .ok (.object 1) ∧
      ∀ held, (after.collect held).loadSlot true 0 .object (some ⟨"Actor", .classType⟩) =
        .ok (.object 1) := by
  have paired := made_mirrored.paired
  have room : mirrored.heap.size < UInt64.size := by decide
  have accepted :
      Coercion.apply ⟨"Actor", .classType⟩ mirrored.objects (.object 0) = .ok (.object 1) := rfl
  refine ⟨paired, room, accepted, _, rfl, ?_⟩
  obtain ⟨side, result, -, load, led, shown, -⟩ :=
    @object_store mirrored _ (.static 0 0) _ _ _ paired room accepted rfl
  obtain ⟨read, rfl, -, same⟩ := shown fun adapter hidden => nomatch hidden.1
  cases same nofun
  exact ⟨load, fun held => led 0 held rfl⟩

theorem not_always_readBack : ¬ ∀ (before after : Machine) (location : Location)
    (coercion : Coercion) (value taken : Value), before.objects.Made →
    coercion.apply before.objects value = .ok taken →
    before.run (store location .object value) = (.ok (), after) →
    ∃ read, after.load location .object (some coercion) = .ok read ∧
      before.objects.SameObject read taken := by
  intro readBack
  obtain ⟨read, load, -⟩ := readBack mirrored _ (.static 0 0) ⟨"script", .script⟩ (.object 0) _
    made_mirrored rfl rfl
  cases load

end Machine

end NativeBridge
