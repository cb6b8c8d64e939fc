import Mathlib.Data.List.Sort
import NativeBridge.Planning.Plan
import NativeBridge.Proofs.Results

/-!
# The shape of a plan

What the steps of a plan have to do with the method that it was built for.

* `build_built`: a plan that was built takes a window of all parameters and the receiver, reads the
  parameters from the last to the first, and writes back exactly those passed by reference.
* `build_describes`: it has the name, the owner and the dispatch that the method asks for.
* `Built.params_getElem?`: the step of each parameter, by its place in the declaration.
* `Built.mem_writeBacks_iff`, `Built.writeBacks_descend`: the write-backs, from the last to the
  first.
* `Built.paramsInOrder_eq`: in order of declaration, the parameters are those reads backwards.
-/

namespace NativeBridge

namespace Plan

/-- A plan as it is built for a method of a type. -/
structure Built (declaring : TypeRef) (method : Method) (plan : Plan) : Prop where
  window : plan.window = method.params.length + (if method.isStatic then 0 else 1)
  signature : plan.signature = method.signature declaring
  steps : List.Forall₂ (fun entry step => paramStep declaring method entry.1 entry.2 = .ok step)
    method.params.zipIdx.reverse plan.params
  receiver : if method.isStatic then plan.receiver = none
    else ∃ step, receiverStep declaring method = .ok step ∧ plan.receiver = some step
  writeBacks : plan.writeBacks = writeBacksOf plan.params
  ret : returnStep declaring method = .ok plan.ret

theorem build_built {declaring : TypeRef} {method : Method} {ordinal : Nat} {plan : Plan}
    (built : build declaring method ordinal = .ok plan) : plan.Built declaring method := by
  cases static : method.isStatic with
  | true =>
      simp only [build, static, if_true, bind_eq_ok, pure_eq_ok, mapM_eq_ok] at built
      obtain ⟨dispatch, -, params, steps, receiver, rfl, ret, returned, rfl⟩ := built
      refine ⟨?_, rfl, steps, ?_, rfl, returned⟩
      · rw [static]
        rfl
      · rw [if_pos static]
  | false =>
      simp only [build, static, Bool.false_eq_true, if_false, bind_eq_ok, pure_eq_ok, map_eq_ok,
        mapM_eq_ok] at built
      obtain ⟨dispatch, -, params, steps, receiver, ⟨step, received, rfl⟩, ret, returned, rfl⟩ :=
        built
      refine ⟨?_, rfl, steps, ?_, rfl, returned⟩
      · rw [static]
        rfl
      · rw [if_neg (by simp [static])]
        exact ⟨step, received, rfl⟩

structure Describes (declaring : TypeRef) (method : Method) (ordinal : Nat) (plan : Plan) :
    Prop where
  ident : plan.ident = trampolineIdent method.name ordinal
  number : plan.ordinal = ordinal
  owner : plan.declaring = declaring
  result : plan.resultType = method.resultType
  dispatch : dispatch? declaring method = .ok plan.dispatch

theorem build_describes {declaring : TypeRef} {method : Method} {ordinal : Nat} {plan : Plan}
    (built : build declaring method ordinal = .ok plan) :
    Describes declaring method ordinal plan := by
  obtain ⟨dispatch, found, rest⟩ := bind_eq_ok.mp built
  cases static : method.isStatic <;>
    simp only [static, if_true, Bool.false_eq_true, if_false, bind_eq_ok, pure_eq_ok] at rest
  all_goals
    obtain ⟨params, -, receiver, -, ret, -, rfl⟩ := rest
    exact ⟨rfl, rfl, rfl, rfl, found⟩

theorem kindIn_eq_ok {declaring type : TypeRef} {method : Method} {kind : Kind} :
    kindIn declaring method type = .ok kind ↔ type.kind? = some kind := by
  rw [kindIn]
  cases type.kind? with
  | none => simp
  | some found => simp

def stepOf (method : Method) (param : Parameter) (index : Nat) (kind : Kind) : ParamStep where
  index := index
  name := param.name
  offset := method.params.length - index
  type := param.type
  kind := kind
  coercion := coercionFor param.type
  byRef := param.byRef
  free := !param.byRef && kind == .object

theorem paramStep_eq_ok {declaring : TypeRef} {method : Method} {param : Parameter} {index : Nat}
    {step : ParamStep} :
    paramStep declaring method param index = .ok step ↔
      ∃ kind, param.type.kind? = some kind ∧ step = stepOf method param index kind := by
  simp only [paramStep, bind_eq_ok, kindIn_eq_ok, pure_eq_ok]
  constructor
  · rintro ⟨kind, known, rfl⟩
    exact ⟨kind, known, rfl⟩
  · rintro ⟨kind, known, rfl⟩
    exact ⟨kind, known, rfl⟩

def receiverOf (declaring : TypeRef) (method : Method) (kind : Kind) : ReceiverStep where
  offset := method.params.length + 1
  type := declaring
  kind := kind
  coercion := coercionFor declaring
  resolve := declaring.isValueType
  free := !declaring.isPrimitive

theorem receiverStep_eq_ok {declaring : TypeRef} {method : Method} {step : ReceiverStep} :
    receiverStep declaring method = .ok step ↔
      ∃ kind, declaring.kind? = some kind ∧ step = receiverOf declaring method kind := by
  simp only [receiverStep, bind_eq_ok, kindIn_eq_ok, pure_eq_ok]
  constructor
  · rintro ⟨kind, known, rfl⟩
    exact ⟨kind, known, rfl⟩
  · rintro ⟨kind, known, rfl⟩
    exact ⟨kind, known, rfl⟩

theorem returnStep_eq_ok {declaring : TypeRef} {method : Method} {step : ReturnStep} :
    returnStep declaring method = .ok step ↔
      if method.resultType.isVoid then step = .void
      else ∃ kind, method.resultType.kind? = some kind ∧
        step = if kind.isNumeric then .value kind else .object (!method.resultType.isSealed) := by
  by_cases void : method.resultType.isVoid
  · simp only [returnStep, void, if_true, pure_eq_ok]
    exact eq_comm
  · simp only [returnStep, void, Bool.false_eq_true, if_false, bind_eq_ok, kindIn_eq_ok]
    apply exists_congr
    intro kind
    apply and_congr_right
    intro known
    cases kind <;>
      · simp only [Kind.isNumeric, pure_eq_ok, if_true, Bool.false_eq_true, if_false]
        exact eq_comm

namespace Built

variable {declaring : TypeRef} {method : Method} {plan : Plan}

theorem length_params (built : plan.Built declaring method) :
    plan.params.length = method.params.length := by
  rw [← built.steps.length_eq, List.length_reverse, List.length_zipIdx]

theorem params_le_window (built : plan.Built declaring method) :
    method.params.length ≤ plan.window := by
  rw [built.window]
  exact Nat.le_add_right _ _

theorem params_getElem? (built : plan.Built declaring method) {index : Nat} {param : Parameter}
    (declared : method.params[index]? = some param) :
    ∃ kind, param.type.kind? = some kind ∧
      plan.params.reverse[index]? = some (stepOf method param index kind) := by
  have steps := List.forall₂_reverse_iff.mpr built.steps
  rw [List.reverse_reverse] at steps
  have listed : method.params.zipIdx[index]? = some (param, index) := by
    simp [List.getElem?_zipIdx, declared]
  obtain ⟨step, found, made⟩ := forall₂_getElem? steps listed
  obtain ⟨kind, known, rfl⟩ := paramStep_eq_ok.mp made
  exact ⟨kind, known, found⟩

theorem step_of_mem (built : plan.Built declaring method) {step : ParamStep}
    (member : step ∈ plan.params) :
    ∃ index param kind, method.params[index]? = some param ∧ param.type.kind? = some kind ∧
      step = stepOf method param index kind := by
  obtain ⟨⟨param, index⟩, entry, made⟩ := forall₂_mem built.steps member
  have listed := List.mem_reverse.mp entry
  obtain ⟨kind, known, same⟩ := paramStep_eq_ok.mp made
  exact ⟨index, param, kind, by simpa using List.mem_zipIdx_iff_getElem?.mp listed, known, same⟩

theorem step_offset (built : plan.Built declaring method) {step : ParamStep}
    (member : step ∈ plan.params) : 0 < step.offset ∧ step.offset ≤ method.params.length := by
  obtain ⟨index, param, kind, declared, -, rfl⟩ := built.step_of_mem member
  obtain ⟨inside, -⟩ := List.getElem?_eq_some_iff.mp declared
  simp only [stepOf]
  omega

theorem indexes (built : plan.Built declaring method) :
    plan.params.map (·.index) = (List.range method.params.length).reverse := by
  have same : List.Forall₂ (fun step index => step.index = index) plan.params
      (method.params.zipIdx.reverse.map (·.2)) := by
    rw [List.forall₂_map_right_iff]
    refine built.steps.flip.imp ?_
    intro step entry made
    obtain ⟨kind, -, rfl⟩ := paramStep_eq_ok.mp made
    rfl
  rw [← List.forall₂_map_left_iff, List.forall₂_eq_eq_eq] at same
  rw [same, List.map_reverse, List.zipIdx_map_snd, List.range_eq_range']

theorem mem_writeBacks_iff (built : plan.Built declaring method) {step : WriteBack} :
    step ∈ plan.writeBacks ↔ ∃ param, method.params[step.index]? = some param ∧
      param.byRef = true ∧ param.type.kind? = some step.kind ∧
      step.offset = method.params.length - step.index := by
  rw [built.writeBacks, writeBacksOf, List.mem_map]
  constructor
  · rintro ⟨read, listed, rfl⟩
    obtain ⟨listed, byRef⟩ := List.mem_filter.mp listed
    obtain ⟨index, param, kind, declared, known, rfl⟩ := built.step_of_mem listed
    exact ⟨param, declared, byRef, known, rfl⟩
  · rintro ⟨param, declared, byRef, known, offset⟩
    obtain ⟨kind, found, listed⟩ := built.params_getElem? declared
    obtain rfl : kind = step.kind := Option.some.inj (found.symm.trans known)
    have member := List.mem_reverse.mp (List.mem_of_getElem? listed)
    refine ⟨_, List.mem_filter.mpr ⟨member, byRef⟩, ?_⟩
    simp only [stepOf, ← offset]

theorem params_descend (built : plan.Built declaring method) :
    plan.params.Pairwise fun earlier later => later.index < earlier.index := by
  have descend : (plan.params.map (·.index)).Pairwise fun earlier later => later < earlier := by
    rw [built.indexes, List.pairwise_reverse]
    exact List.pairwise_lt_range
  rwa [List.pairwise_map] at descend

theorem writeBacks_descend (built : plan.Built declaring method) :
    plan.writeBacks.Pairwise fun earlier later => later.index < earlier.index := by
  rw [built.writeBacks, writeBacksOf, List.pairwise_map]
  exact built.params_descend.filter _

theorem paramsInOrder_eq (built : plan.Built declaring method) :
    plan.paramsInOrder = plan.params.reverse := by
  refine List.Perm.eq_of_pairwise ?_ (List.pairwise_mergeSort ?_ ?_ _) ?_ ?_
  · intro first second member member' before after
    obtain ⟨index, param, kind, declared, known, rfl⟩ :=
      built.step_of_mem (List.mem_mergeSort.mp member)
    obtain ⟨other, param', kind', declared', known', rfl⟩ :=
      built.step_of_mem (List.mem_reverse.mp member')
    obtain rfl : index = other :=
      Nat.le_antisymm (of_decide_eq_true before) (of_decide_eq_true after)
    obtain rfl := Option.some.inj (declared.symm.trans declared')
    obtain rfl := Option.some.inj (known.symm.trans known')
    rfl
  · intro a b c first second
    rw [decide_eq_true_eq] at first second ⊢
    exact Nat.le_trans first second
  · intro a b
    simpa using Nat.le_total a.index b.index
  · rw [List.pairwise_reverse]
    exact built.params_descend.imp fun below => decide_eq_true (Nat.le_of_lt below)
  · exact (List.mergeSort_perm _ _).trans (List.reverse_perm _).symm

theorem receiver_eq (built : plan.Built declaring method) :
    if method.isStatic then plan.receiver = none
    else ∃ kind, declaring.kind? = some kind ∧
      plan.receiver = some (receiverOf declaring method kind) := by
  have receiver := built.receiver
  split at receiver
  · rwa [if_pos ‹_›]
  · rw [if_neg ‹_›]
    obtain ⟨step, made, same⟩ := receiver
    obtain ⟨kind, known, rfl⟩ := receiverStep_eq_ok.mp made
    exact ⟨kind, known, same⟩

end Built

end Plan

end NativeBridge
