import NativeBridge.Proofs.Planning.MethodShapes
import NativeBridge.Proofs.Planning.PlanShape

/-!
# Well-formed plans

A plan lists its parameters and its write-backs from the last to the first, and the parameters of
its signature from the first to the last. Whoever carries a plan out, or writes it as code, takes it
that these lists belong together.

* `Built.map_paramsInOrder`: what the steps in order of declaration say, the method says too.
* `Built.window_offsets`: the slots of the window, from the top down, are each read once.
* `build_wellFormed`: every plan that is built is well formed.
-/

namespace NativeBridge

namespace Plan

/-- The lists of a plan belong together, and to the parameters that the method declares. -/
structure WellFormed (method : Method) (plan : Plan) : Prop where
  offsets : plan.params.map (·.offset) = List.range' 1 method.params.length
  window : plan.params.map (·.offset) ++ plan.receiver.toList.map (·.offset) =
    List.range' 1 plan.window
  offset : ∀ step ∈ plan.params, step.index < method.params.length ∧
    step.offset = method.params.length - step.index
  reordered : plan.paramsInOrder.Perm plan.params
  declared : plan.paramsInOrder.map (fun step => (step.index, step.name, step.type, step.byRef)) =
    method.params.zipIdx.map fun (param, index) => (index, param.name, param.type, param.byRef)
  writeBacks : ∀ step, step ∈ plan.writeBacks ↔ ∃ read ∈ plan.params, read.byRef = true ∧
    step = { index := read.index, offset := read.offset, kind := read.kind }
  descends : plan.writeBacks.Pairwise fun earlier later => later.index < earlier.index
  free : ∀ step ∈ plan.params,
    step.free = true ↔ step.byRef = false ∧ step.kind.isNumeric = false
  signature : plan.signature.params = plan.paramsInOrder.map fun step =>
    { typeName := step.type.reference, byRef := step.byRef }
  coercions : ∀ step ∈ plan.params, step.coercion.isSome = true ↔ step.kind = .object
  coercion : ∀ step ∈ plan.receiver, step.coercion.isSome = true ↔ step.kind = .object

theorem isSome_coercionFor_iff {type : TypeRef} {kind : Kind} (known : type.kind? = some kind) :
    (coercionFor type).isSome = true ↔ kind = .object := by
  rw [coercionFor, Option.isSome_map, TypeRef.coercionMode?]
  rw [TypeRef.kind?] at known
  split at known
  · cases known
  · rename_i primitive
    have numeric := (Kind.ofPrimitiveName?_eq_some_iff.mp known).1
    rw [primitive]
    cases kind with
    | object => cases numeric
    | _ => simp
  · rename_i notVoid notPrimitive
    obtain rfl := Option.some.inj known
    cases category : type.category with
    | void => exact absurd category notVoid
    | primitive => exact absurd category notPrimitive
    | _ => simp

namespace Built

variable {declaring : TypeRef} {method : Method} {plan : Plan}

theorem stepsInOrder (built : plan.Built declaring method) :
    List.Forall₂ (fun entry step => ∃ kind, entry.1.type.kind? = some kind ∧
      step = stepOf method entry.1 entry.2 kind) method.params.zipIdx plan.paramsInOrder := by
  have steps := List.forall₂_reverse_iff.mpr built.steps
  rw [List.reverse_reverse, ← built.paramsInOrder_eq] at steps
  exact steps.imp fun entry step made => paramStep_eq_ok.mp made

theorem map_paramsInOrder {α : Type} (built : plan.Built declaring method)
    {planned : ParamStep → α} {declared : Parameter × Nat → α}
    (same : ∀ param index kind, planned (stepOf method param index kind) = declared (param, index)) :
    plan.paramsInOrder.map planned = method.params.zipIdx.map declared := by
  rw [← List.forall₂_eq_eq_eq, List.forall₂_map_left_iff, List.forall₂_map_right_iff]
  refine built.stepsInOrder.flip.imp ?_
  rintro step ⟨param, index⟩ ⟨kind, -, rfl⟩
  exact same param index kind

theorem offset_eq (built : plan.Built declaring method) {step : ParamStep}
    (member : step ∈ plan.params) :
    step.index < method.params.length ∧ step.offset = method.params.length - step.index := by
  obtain ⟨index, param, kind, declared, -, rfl⟩ := built.step_of_mem member
  exact ⟨(List.getElem?_eq_some_iff.mp declared).1, rfl⟩

theorem offsets (built : plan.Built declaring method) :
    plan.params.map (·.offset) = List.range' 1 method.params.length := by
  have counted : plan.params.map (·.offset) =
      (plan.params.map (·.index)).map (method.params.length - ·) := by
    rw [List.map_map]
    exact List.map_congr_left fun step member => (built.offset_eq member).2
  rw [counted, built.indexes]
  refine List.ext_getElem (by simp) ?_
  intro place inside _
  simp only [List.length_map, List.length_reverse, List.length_range] at inside
  simp only [List.getElem_map, List.getElem_reverse, List.getElem_range, List.length_range,
    List.getElem_range']
  omega

theorem window_offsets (built : plan.Built declaring method) :
    plan.params.map (·.offset) ++ plan.receiver.toList.map (·.offset) =
      List.range' 1 plan.window := by
  have receiver := built.receiver_eq
  rw [built.offsets, built.window]
  split at receiver
  · rw [receiver, if_pos ‹_›]
    exact List.append_nil _
  · obtain ⟨kind, -, receiver⟩ := receiver
    rw [receiver, if_neg ‹_›, List.range'_concat, Nat.one_mul, Nat.add_comm 1]
    rfl

theorem signature_params (built : plan.Built declaring method) :
    plan.signature.params = plan.paramsInOrder.map fun step =>
      { typeName := step.type.reference, byRef := step.byRef } := by
  have declared : plan.paramsInOrder.map (fun step =>
      ({ typeName := step.type.reference, byRef := step.byRef } : ParamKey)) =
        method.params.zipIdx.map fun entry =>
          { typeName := entry.1.type.reference, byRef := entry.1.byRef } :=
    built.map_paramsInOrder fun _ _ _ => rfl
  have params : method.params = method.params.zipIdx.map (·.1) := (List.zipIdx_map_fst 0 _).symm
  rw [declared, built.signature]
  conv_lhs => rw [Method.signature, params, List.map_map]
  rfl

end Built

/-- Every plan that is built is well formed, whatever the number and the mix of its parameters. -/
theorem build_wellFormed {declaring : TypeRef} {method : Method} {ordinal : Nat} {plan : Plan}
    (built : build declaring method ordinal = .ok plan) : plan.WellFormed method := by
  have shape := build_built built
  refine ⟨shape.offsets, shape.window_offsets, fun step => shape.offset_eq,
    List.mergeSort_perm _ _, shape.map_paramsInOrder fun _ _ _ => rfl, ?_,
    shape.writeBacks_descend, ?_, shape.signature_params, ?_, ?_⟩
  · intro step
    rw [shape.writeBacks, writeBacksOf]
    simp only [List.mem_map, List.mem_filter, and_assoc, eq_comm]
  · intro step member
    obtain ⟨index, param, kind, -, -, rfl⟩ := shape.step_of_mem member
    cases param.byRef <;> cases kind <;> simp [stepOf, Kind.isNumeric]
  · intro step member
    obtain ⟨index, param, kind, -, known, rfl⟩ := shape.step_of_mem member
    exact isSome_coercionFor_iff known
  · intro step received
    have receiver := shape.receiver_eq
    split at receiver
    · rw [receiver] at received
      cases received
    · obtain ⟨kind, known, receiver⟩ := receiver
      rw [receiver] at received
      cases received
      exact isSome_coercionFor_iff known

def numerals : TypeRef := .ofClass "demo" "Numerals"

def tryRead : Method where
  name := "TryRead"
  params := [
    { name := "number", type := .primitive "i32", byRef := true },
    { name := "text", type := .string },
    { name := "rest", type := .string, byRef := true }]
  result := some (.primitive "bool")

def tryReadPlan : Plan :=
  match build numerals tryRead 0 with
  | .ok plan => plan
  | .error _ => default

theorem tryRead_wellFormed : build numerals tryRead 0 = .ok tryReadPlan ∧
    tryReadPlan.window = 4 ∧ tryReadPlan.writeBacks.map (·.index) = [2, 0] ∧
    tryReadPlan.WellFormed tryRead :=
  have built : build numerals tryRead 0 = .ok tryReadPlan := rfl
  ⟨built, rfl, rfl, build_wellFormed built⟩

end Plan

end NativeBridge
