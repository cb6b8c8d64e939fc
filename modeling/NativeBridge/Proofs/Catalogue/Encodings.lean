import Mathlib.Data.List.Basic
import NativeBridge.Catalogue.Document
import NativeBridge.Proofs.Text.JsonCompact
import NativeBridge.Text.JsonForms

/-!
# Encoded descriptions

The encoder leaves nothing of a description out, and its documents hold no literals.

* `encodeTypeRef_inj`, `encodeTypeDescriptor_injective`: the description can be told from the
  document.
* `isPlain_encodeTypeDescriptor`: so it can from the compact text.
-/

namespace NativeBridge

/-! ## Words -/

theorem Category.find?_name (category : Category) :
    Category.all.find? (·.name == category.name) = some category := by
  cases category <;> decide

theorem Category.name_injective : Function.Injective Category.name := by
  intro category other same
  have found := find?_name category
  rw [same, find?_name other] at found
  exact (Option.some.inj found).symm

theorem Visibility.find?_name (visibility : Visibility) :
    Visibility.all.find? (·.name == visibility.name) = some visibility := by
  cases visibility <;> decide

theorem Visibility.name_injective : Function.Injective Visibility.name := by
  intro visibility other same
  have found := find?_name visibility
  rw [same, find?_name other] at found
  exact (Option.some.inj found).symm

namespace Document

open Json (isPlain arePlain membersPlain arePlain_iff membersPlain_append)

/-! ## Type references -/

section Fields

variable (type : TypeRef)

theorem member?_space : (encodeTypeRef type).member? "namespace" = some (.string type.space) := by
  cases type
  rfl

theorem member?_name : (encodeTypeRef type).member? "name" = some (.string type.name) := by
  cases type
  rfl

theorem member?_parent :
    (encodeTypeRef type).member? "parent" = type.parent.map encodeTypeRef := by
  obtain ⟨space, name, parent, args, category, declaredSealed⟩ := type
  cases parent <;> cases args <;> rfl

theorem member?_args : (encodeTypeRef type).member? "generic_args" =
    if type.args.isEmpty then none else some (.array (encodeTypeRefs type.args)) := by
  obtain ⟨space, name, parent, args, category, declaredSealed⟩ := type
  cases parent <;> cases args <;> rfl

theorem member?_category :
    (encodeTypeRef type).member? "category" = some (.string type.category.name) := by
  obtain ⟨space, name, parent, args, category, declaredSealed⟩ := type
  cases parent <;> cases args <;> rfl

theorem member?_sealed :
    (encodeTypeRef type).member? "sealed" = some (.bool type.declaredSealed) := by
  obtain ⟨space, name, parent, args, category, declaredSealed⟩ := type
  cases parent <;> cases args <;> rfl

end Fields

theorem encodeTypeRefs_of_members {types others : List TypeRef}
    (same : (if types.isEmpty then none else some (Json.array (encodeTypeRefs types))) =
      if others.isEmpty then none else some (Json.array (encodeTypeRefs others))) :
    encodeTypeRefs types = encodeTypeRefs others := by
  cases types with
  | nil =>
      cases others with
      | nil => rfl
      | cons other others => cases same
  | cons type types =>
      cases others with
      | nil => cases same
      | cons other others => exact Json.array.inj (Option.some.inj same)

theorem fields_of_encodeTypeRef {type other : TypeRef}
    (same : encodeTypeRef type = encodeTypeRef other) :
    type.space = other.space ∧ type.name = other.name ∧ type.category = other.category ∧
      type.declaredSealed = other.declaredSealed ∧
        type.parent.map encodeTypeRef = other.parent.map encodeTypeRef ∧
          encodeTypeRefs type.args = encodeTypeRefs other.args := by
  have member (key : String) :
      (encodeTypeRef type).member? key = (encodeTypeRef other).member? key := by rw [same]
  refine ⟨?_, ?_, ?_, ?_, ?_, ?_⟩
  · simpa [member?_space] using member "namespace"
  · simpa [member?_name] using member "name"
  · simpa [member?_category, Category.name_injective.eq_iff] using member "category"
  · simpa [member?_sealed] using member "sealed"
  · simpa only [member?_parent] using member "parent"
  · exact encodeTypeRefs_of_members (by simpa only [member?_args] using member "generic_args")

mutual

theorem encodeTypeRef_inj : ∀ type other : TypeRef, encodeTypeRef type = encodeTypeRef other →
    type = other
  | ⟨_, _, parent, args, _, _⟩, ⟨_, _, parent', args', _, _⟩, same => by
      obtain ⟨rfl, rfl, rfl, rfl, above, listed⟩ := fields_of_encodeTypeRef same
      rw [encodeParent_inj parent parent' above, encodeTypeRefs_inj args args' listed]

theorem encodeParent_inj : ∀ parent other : Option TypeRef,
    parent.map encodeTypeRef = other.map encodeTypeRef → parent = other
  | none, none, _ => rfl
  | none, some _, same => nomatch same
  | some _, none, same => nomatch same
  | some type, some other, same => by rw [encodeTypeRef_inj type other (Option.some.inj same)]

theorem encodeTypeRefs_inj : ∀ types others : List TypeRef,
    encodeTypeRefs types = encodeTypeRefs others → types = others
  | [], [], _ => rfl
  | [], _ :: _, same => nomatch same
  | _ :: _, [], same => nomatch same
  | type :: types, other :: others, same => by
      obtain ⟨here, there⟩ := List.cons.inj same
      rw [encodeTypeRef_inj type other here, encodeTypeRefs_inj types others there]

end

mutual

theorem isPlain_encodeTypeRef : ∀ type : TypeRef, (encodeTypeRef type).isPlain = true
  | ⟨space, name, parent, args, category, declaredSealed⟩ => by
      have above := membersPlain_encodeParent parent
      have listed := arePlain_encodeTypeRefs args
      rw [encodeTypeRef, isPlain, membersPlain_append, membersPlain_append, membersPlain_append,
        above]
      cases args with
      | nil => rfl
      | cons arg rest =>
          rw [List.isEmpty_cons, if_neg Bool.false_ne_true]
          simp [membersPlain, isPlain, listed]

theorem membersPlain_encodeParent : ∀ parent : Option TypeRef,
    membersPlain (encodeParent parent) = true
  | none => rfl
  | some type => by simp [encodeParent, membersPlain, isPlain_encodeTypeRef type]

theorem arePlain_encodeTypeRefs : ∀ types : List TypeRef,
    arePlain (encodeTypeRefs types) = true
  | [] => rfl
  | type :: rest => by
      rw [encodeTypeRefs, arePlain, isPlain_encodeTypeRef type, arePlain_encodeTypeRefs rest]
      rfl

end

/-! ## Members -/

theorem encodeParameter_injective : Function.Injective encodeParameter := by
  intro param other same
  simp only [encodeParameter, Json.object.injEq, List.cons.injEq, Prod.mk.injEq,
    Json.string.injEq, Json.bool.injEq, Json.int.injEq, true_and, and_true] at same
  obtain ⟨name, type, byRef, position⟩ := same
  cases param
  cases other
  rw [Parameter.mk.injEq]
  exact ⟨name, encodeTypeRef_inj _ _ type, byRef, Int.ofNat.inj position⟩

theorem isPlain_encodeParameter (param : Parameter) : (encodeParameter param).isPlain = true := by
  simp [encodeParameter, isPlain, membersPlain, isPlain_encodeTypeRef]

theorem encodeMethod_injective : Function.Injective encodeMethod := by
  intro method other same
  simp only [encodeMethod, Json.object.injEq, List.cons_append, List.nil_append, List.cons.injEq,
    Prod.mk.injEq, Json.string.injEq, Json.bool.injEq, Json.int.injEq, Json.array.injEq,
    true_and] at same
  obtain ⟨name, visibility, isStatic, genericParams, specialName, obsolete, params, result⟩ := same
  have results : method.result = other.result := by
    generalize method.result = found at result ⊢
    generalize other.result = expected at result ⊢
    cases found with
    | none =>
        cases expected with
        | none => rfl
        | some type => cases result
    | some type =>
        cases expected with
        | none => cases result
        | some other =>
            simp only [List.cons.injEq, Prod.mk.injEq, true_and, and_true] at result
            rw [encodeTypeRef_inj type other result]
  cases method
  cases other
  rw [Method.mk.injEq]
  exact ⟨name, Visibility.name_injective visibility, isStatic, Int.ofNat.inj genericParams,
    specialName, obsolete, List.map_injective_iff.mpr encodeParameter_injective params, results⟩

theorem isPlain_encodeMethod (method : Method) : (encodeMethod method).isPlain = true := by
  have params : arePlain (method.params.map encodeParameter) = true := by
    simp [arePlain_iff, isPlain_encodeParameter]
  rw [encodeMethod, isPlain, membersPlain_append]
  cases method.result with
  | none => simp [membersPlain, isPlain, params]
  | some type => simp [membersPlain, isPlain, params, isPlain_encodeTypeRef]

theorem encodeProperty_injective : Function.Injective encodeProperty := by
  intro property other same
  simp only [encodeProperty, Json.object.injEq, List.cons.injEq, Prod.mk.injEq,
    Json.string.injEq, Json.bool.injEq, true_and, and_true] at same
  cases property
  cases other
  rw [Property.mk.injEq]
  exact same

/-! ## Types -/

theorem encodeTypeDescriptor_injective : Function.Injective encodeTypeDescriptor := by
  intro descriptor other same
  simp only [encodeTypeDescriptor, Json.object.injEq, List.cons.injEq, Prod.mk.injEq,
    Json.array.injEq, Json.bool.injEq, true_and, and_true] at same
  obtain ⟨type, methods, properties, obsolete⟩ := same
  cases descriptor
  cases other
  rw [TypeDescriptor.mk.injEq]
  exact ⟨encodeTypeRef_inj _ _ type, List.map_injective_iff.mpr encodeMethod_injective methods,
    List.map_injective_iff.mpr encodeProperty_injective properties, obsolete⟩

theorem isPlain_encodeTypeDescriptor (descriptor : TypeDescriptor) :
    (encodeTypeDescriptor descriptor).isPlain = true := by
  have methods : arePlain (descriptor.methods.map encodeMethod) = true := by
    simp [arePlain_iff, isPlain_encodeMethod]
  have properties : arePlain (descriptor.properties.map encodeProperty) = true := by
    simp [arePlain_iff, encodeProperty, isPlain, membersPlain]
  simp [encodeTypeDescriptor, isPlain, membersPlain, isPlain_encodeTypeRef, methods, properties]

end Document

end NativeBridge
