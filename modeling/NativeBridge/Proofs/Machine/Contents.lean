import NativeBridge.Calls.Conversion
import NativeBridge.Proofs.Machine.Objects
import NativeBridge.Proofs.Machine.Sides

/-!
# What depends on the contents of objects alone

Whether objects have ended is of no account to the conversions of typed native code, nor to a write
that stores no object.

* `unbox_of_contents`: conversions give the same.
* `putPayload_of_contents`, `box_of_contents`, `setField_of_contents`: changes leave the same
  contents.
* `putPayload_self`: a payload that is put back where it was changes nothing.
-/

namespace NativeBridge

namespace Objects

section Conversions

variable {objects others : Objects} (same : objects.contents = others.contents)

include same

theorem length_of_contents : objects.cells.length = others.cells.length := by
  rw [← length_contents, same, length_contents]

theorem native?_of_contents (id : ObjectId) : objects.native? id = others.native? id := by
  rw [native?, native?, get_of_contents same]

theorem describe_of_contents (value : Value) : objects.describe value = others.describe value := by
  cases value with
  | object id => rw [describe, describe, get_of_contents same]
  | _ => rfl

theorem expected_of_contents (typeName : String) (value : Value) :
    objects.expected typeName value = others.expected typeName value := by
  rw [expected, expected, describe_of_contents same]

theorem nativeId_of_contents (value : Value) (typeName : String) :
    objects.nativeId value typeName = others.nativeId value typeName := by
  cases value with
  | object id => rw [nativeId, nativeId, get_of_contents same, expected_of_contents same]
  | _ => rfl

theorem unbox_of_contents (wanted : PayloadType) (value : Value) (typeName : String) :
    objects.unbox wanted value typeName = others.unbox wanted value typeName := by
  simp only [unbox, nativeId_of_contents same, native?_of_contents same, expected_of_contents same]

end Conversions

theorem unbox_eq_ok {objects : Objects} {wanted : PayloadType} {value : Value} {typeName : String}
    {payload : Payload} (taken : objects.unbox wanted value typeName = .ok payload) :
    ∃ id self, value = .object id ∧ objects.nativeId value typeName = .ok id ∧
      objects.native? id = some self ∧ self.payload = payload ∧ payload.type = wanted := by
  obtain ⟨id, named, taken⟩ := bind_eq_ok.mp taken
  have object : value = .object id := by
    cases value with
    | object other =>
        rw [nativeId] at named
        split at named
        · rw [Except.ok.inj named]
        · cases named
    | _ => cases named
  cases known : objects.native? id with
  | none =>
      rw [known] at taken
      cases taken
  | some self =>
      simp only [known] at taken
      split at taken
      · rename_i wanted
        obtain rfl := pure_eq_ok.mp taken
        exact ⟨id, self, object, named, known, rfl, wanted⟩
      · cases taken

section Changes

variable {objects others : Objects}

theorem put_contents (objects : Objects) (id : ObjectId) (content : Instance) :
    (objects.put id content).contents = objects.contents.modify id fun _ => content := by
  apply List.ext_getElem?
  intro other
  simp only [contents, put, List.getElem?_map, List.getElem?_modify]
  cases objects.cells[other]? with
  | none => rfl
  | some cell => by_cases here : id = other <;> simp [here]

theorem putPayload_of_contents (same : objects.contents = others.contents) (id : ObjectId)
    (payload : Payload) :
    (objects.putPayload id payload).contents = (others.putPayload id payload).contents := by
  rw [putPayload, putPayload, native?_of_contents same]
  cases others.native? id with
  | none => exact same
  | some self => rw [put_contents, put_contents, same]

theorem putPayload_self {id : ObjectId} {self : NativeInstance}
    (known : objects.native? id = some self) :
    (objects.putPayload id self.payload).contents = objects.contents := by
  simp only [putPayload, known, put_contents]
  apply List.ext_getElem?
  intro other
  rw [List.getElem?_modify]
  by_cases here : id = other
  · subst here
    rw [native?, get] at known
    simp only [contents, List.getElem?_map]
    cases found : objects.cells[id]? with
    | none => rfl
    | some cell =>
        simp only [found] at known
        cases content : cell.content with
        | script self =>
            rw [content] at known
            cases known
        | native other =>
            rw [content] at known
            cases known
            simp [content]
  · simp [here]

theorem box_of_contents (same : objects.contents = others.contents) (typeName : String)
    (payload : Payload) :
    (objects.box typeName payload).1 = (others.box typeName payload).1 ∧
      (objects.box typeName payload).2.contents = (others.box typeName payload).2.contents := by
  simp only [box, addNative, add, length_of_contents same, true_and]
  simp only [contents, List.map_append] at same ⊢
  rw [same]

theorem storedIn_plain (objects : Objects) (side : Flavor) {value : Value}
    (plain : value.objectId? = none) : TypeTable.storedIn objects side value = value := by
  cases side <;> cases value <;> first | rfl | cases plain

theorem setField_of_contents (same : objects.contents = others.contents) {id : ObjectId}
    {index : Nat} {value : Value} (plain : value.objectId? = none) :
    (∃ after final, objects.setField id index value = .ok after ∧
      others.setField id index value = .ok final ∧ after.contents = final.contents) ∨
    ∃ fault, objects.setField id index value = .error fault ∧
      others.setField id index value = .error fault := by
  simp only [setField, storedIn_eq, storedIn_plain _ _ plain, get_of_contents same]
  split
  · refine .inl ⟨_, _, rfl, rfl, ?_⟩
    rw [put_contents, put_contents, same]
  · exact .inr ⟨_, rfl, rfl⟩

end Changes

end Objects

end NativeBridge
