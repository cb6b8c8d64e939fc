import NativeBridge.Proofs.Planning.Fingerprints
import NativeBridge.Proofs.Source.LocalNames
import NativeBridge.Proofs.Source.Renderability

/-!
# Names of emitted functions and variables

Methods and parameters may have any names. The names that stand for them in code are identifiers
and no keywords, and the number after the last underscore tells them apart, however their letters
were replaced.

* `trampolineIdent_inj`: equal names have equal numbers.
* `isLegal_trampolineIdent`, `TypeRef.isLegal_bindingIdent`: names that code can hold as they are.
* `BindingModule.plans_ascend`: the plans of a module are numbered in ascending order.
* `BindingModule.names_apart`: the names of a module.
-/

namespace NativeBridge

open Source (RenderedModule Stub functionNames boundNames runtimePath variableName localNames)

/-! ## Legal names -/

/-- A name that code can hold as it is. -/
structure IsLegal (name : String) : Prop where
  identifier : isAsciiIdentifier name.toList = true
  notHole : name ≠ "_"
  notKeyword : name ∉ Source.keywords

theorem trampolineIdent_ne (name : String) (number : Nat) {word : String}
    (noDigits : [word].all (·.toList.all (!Text.isAsciiDigit ·)) = true) :
    trampolineIdent name number ≠ word :=
  List.mem_singleton.not.mp (Source.trampolineIdent_not_mem name number noDigits)

theorem isLegal_trampolineIdent (name : String) (number : Nat) :
    IsLegal (trampolineIdent name number) where
  identifier := isAsciiIdentifier_trampolineIdent name number
  notHole := trampolineIdent_ne name number (by decide)
  notKeyword := Source.trampolineIdent_not_mem name number (by decide)

theorem TypeRef.isLegal_bindingIdent (type : TypeRef) :
    IsLegal (type.bindingIdent ({} : Options).suffix) := by
  -- The suffix holds a capital letter that no word of the language has.
  have marked : 'B' ∈ (type.bindingIdent ({} : Options).suffix).toList := by
    rw [bindingIdent, String.toList_append]
    exact List.mem_append_right _ (by decide)
  have unmarked : ∀ word ∈ "_" :: Source.keywords ++ Source.neverRaw, 'B' ∉ word.toList := by
    decide
  have unlisted : type.bindingIdent ({} : Options).suffix ∉
      "_" :: Source.keywords ++ Source.neverRaw :=
    fun listed => unmarked _ listed marked
  simp only [List.cons_append, List.mem_cons, List.mem_append, not_or] at unlisted
  obtain ⟨notHole, notKeyword, notNeverRaw⟩ := unlisted
  have writable := (type.isWritable_bindingIdent_iff (by decide)).mpr
    ⟨.inr (by decide), notNeverRaw⟩
  exact ⟨writable.1, notHole, notKeyword⟩

/-! ## Numbers at the end of names -/

theorem splitLast_append {mark : Char} {after : List Char} (unmarked : mark ∉ after)
    (before : List Char) : splitLast mark (before ++ mark :: after) = some (before, after) := by
  have none {text : List Char} (unmarked : mark ∉ text) : splitLast mark text = none := by
    induction text with
    | nil => rfl
    | cons c rest ih =>
        obtain ⟨other, others⟩ := not_or.mp (List.mem_cons.not.mp unmarked)
        rw [splitLast, ih others]
        exact if_neg (Ne.symm other)
  induction before with
  | nil =>
      rw [List.nil_append, splitLast, none unmarked]
      exact if_pos rfl
  | cons c before ih => rw [List.cons_append, splitLast, ih]

theorem trampolineIdent_inj {name other : String} {number number' : Nat}
    (same : trampolineIdent name number = trampolineIdent other number') : number = number' := by
  have unmarked (number : Nat) : '_' ∉ Nat.toDigits 10 number := by
    intro member
    exact absurd (isAsciiDigit_toDigits member) (by decide)
  have split (name : String) (number : Nat) :
      splitLast '_' (trampolineIdent name number).toList =
        some (sanitizedChars name.toList, Nat.toDigits 10 number) := by
    rw [toList_trampolineIdent, splitLast_append (unmarked number)]
  have pairs := (split name number).symm.trans (same ▸ split other number')
  have digits := (Prod.mk.inj (Option.some.inj pairs)).2
  calc number = Nat.ofDigitChars 10 (Nat.toDigits 10 number) 0 := Nat.ofDigitChars_ten_toDigits.symm
    _ = Nat.ofDigitChars 10 (Nat.toDigits 10 number') 0 := by rw [digits]
    _ = number' := Nat.ofDigitChars_ten_toDigits

theorem variableName_inj {step other : ParamStep} (same : variableName step = variableName other) :
    step.index = other.index := trampolineIdent_inj same

/-! ## Names of a module -/

theorem Plan.Built.nodup_variableNames {declaring : TypeRef} {method : Method} {plan : Plan}
    (built : plan.Built declaring method) : (plan.params.map variableName).Nodup := by
  rw [List.Nodup, List.pairwise_map]
  refine built.params_descend.imp ?_
  intro step other below same
  exact absurd (variableName_inj same) (Nat.ne_of_gt below)

namespace BindingModule

variable {type : TypeRef} {descriptor : TypeDescriptor}

theorem plans_eq (options : Options) :
    (ofDescriptor type descriptor options).plans = descriptor.eligible.filterMap
      fun (method, ordinal) => (Plan.build type method ordinal).toOption := by
  show (descriptor.eligible.map _).filterMap _ = _
  rw [List.filterMap_map]
  rfl

theorem mem_plans {options : Options} {plan : Plan}
    (listed : plan ∈ (ofDescriptor type descriptor options).plans) :
    ∃ method, Plan.build type method plan.ordinal = .ok plan := by
  rw [plans_eq] at listed
  obtain ⟨⟨method, ordinal⟩, -, made⟩ := List.mem_filterMap.mp listed
  have built := toOption_eq_some made
  obtain rfl := (Plan.build_describes built).number
  exact ⟨method, built⟩

theorem plans_ascend (options : Options) :
    (ofDescriptor type descriptor options).plans.Pairwise
      fun earlier later => earlier.ordinal < later.ordinal := by
  have numbered : descriptor.eligible.Pairwise fun earlier later => earlier.2 < later.2 := by
    rw [← List.pairwise_map (f := Prod.snd), TypeDescriptor.eligible, List.zipIdx_map_snd]
    exact List.pairwise_lt_range'
  rw [plans_eq]
  refine numbered.filterMap _ ?_
  intro earlier later below first built second built'
  rw [(Plan.build_describes (toOption_eq_some built)).number,
    (Plan.build_describes (toOption_eq_some built')).number]
  exact below

theorem idents_apart (options : Options) :
    (ofDescriptor type descriptor options).plans.Pairwise
      fun earlier later => earlier.ident ≠ later.ident := by
  refine (plans_ascend options).imp_of_mem ?_
  intro earlier later listed listed' below same
  obtain ⟨method, built⟩ := mem_plans listed
  obtain ⟨method', built'⟩ := mem_plans listed'
  rw [(Plan.build_describes built).ident, (Plan.build_describes built').ident] at same
  exact absurd (trampolineIdent_inj same) (Nat.ne_of_lt below)

theorem nodup_functionNames (options : Options) (runtime : List Source.Token) :
    (functionNames (RenderedModule.ofModule runtime
      (ofDescriptor type descriptor options)).file.codeFile.body).Nodup := by
  let plans := (ofDescriptor type descriptor options).plans
  have named {plan : Plan} (listed : plan ∈ plans) {stub : Stub}
      (made : (Stub.ofPlan plan).toOption = some stub) :
      stub.name.token = .word plan.ident ∧ plan.ident ≠ "register" := by
    obtain ⟨method, built⟩ := mem_plans listed
    obtain ⟨-, spelled⟩ := Stub.ofPlan_named (toOption_eq_some made)
    rw [(Plan.build_describes built).ident] at spelled ⊢
    rw [Source.ofName_trampolineIdent] at spelled
    rw [← Except.ok.inj spelled]
    exact ⟨rfl, trampolineIdent_ne _ _ (by decide)⟩
  have stubs : (RenderedModule.ofModule runtime
      (ofDescriptor type descriptor options)).file.stubs =
        plans.filterMap fun plan => (Stub.ofPlan plan).toOption := by
    show (plans.map _).filterMap _ = _
    rw [List.filterMap_map]
    rfl
  rw [Source.functionNames_module, stubs, List.nodup_append]
  refine ⟨?_, List.nodup_singleton _, ?_⟩
  · rw [List.Nodup, List.pairwise_map]
    refine (List.Pairwise.and_mem.mp (idents_apart options)).filterMap _ ?_
    rintro earlier later ⟨listed, listed', other⟩ stub made stub' made'
    rw [(named listed made).1, (named listed' made').1]
    exact fun same => other (Source.Token.word.inj same)
  · intro token member other registered same
    obtain ⟨stub, listed, rfl⟩ := List.mem_map.mp member
    obtain ⟨plan, listed, made⟩ := List.mem_filterMap.mp listed
    obtain rfl := List.mem_singleton.mp registered
    obtain ⟨token, apart⟩ := named listed made
    exact apart (Source.Token.word.inj (token.symm.trans same))

/-- The names that code gives to the trampolines of a module are identifiers that are told apart,
also from the function that registers them. Those of the parameters of a trampoline are told apart
from one another and from every other name that its function binds. -/
theorem names_apart {catalogue : Catalogue} {options : Options} {self : BindingModule}
    (built : build catalogue type options = .ok self) :
    (self.plans.map (·.ident)).Nodup ∧
    (∀ plan ∈ self.plans, IsLegal plan.ident ∧ plan.ident ≠ "register" ∧
      (plan.params.map variableName).Nodup ∧
      ∀ step ∈ plan.params, IsLegal (variableName step) ∧ variableName step ∉ localNames) ∧
    (∀ runtime, runtimePath options = .ok runtime →
      (functionNames (RenderedModule.ofModule runtime self).file.codeFile.body).Nodup ∧
      ∀ plan ∈ self.plans, ∀ stub, Stub.ofPlan plan = .ok stub →
        ∀ name ∈ boundNames (stub.tokens runtime),
          name ∈ localNames ∨ ∃ step ∈ plan.params, name = variableName step) ∧
    ∀ other : TypeRef, IsLegal (other.bindingIdent ({} : Options).suffix) := by
  obtain ⟨descriptor, -, rfl⟩ : ∃ descriptor, catalogue.describe type = .ok descriptor ∧
      ofDescriptor type descriptor options = self := by
    simpa only [build, bind_eq_ok, pure_eq_ok] using built
  refine ⟨?_, ?_, ?_, TypeRef.isLegal_bindingIdent⟩
  · rw [List.Nodup, List.pairwise_map]
    exact idents_apart options
  · intro plan listed
    obtain ⟨method, made⟩ := mem_plans listed
    rw [(Plan.build_describes made).ident]
    refine ⟨isLegal_trampolineIdent _ _, trampolineIdent_ne _ _ (by decide),
      (Plan.build_built made).nodup_variableNames, ?_⟩
    intro step _
    exact ⟨isLegal_trampolineIdent _ _, Source.trampolineIdent_not_mem _ _ (by decide)⟩
  · intro runtime path
    refine ⟨nodup_functionNames options runtime, ?_⟩
    intro plan _ stub made name bound
    exact Source.mem_boundNames path made bound

def crowded : TypeDescriptor :=
  (TypeDescriptor.ofType Demo.math)
    |>.addMethod
      (((Method.static "x_1").addParam "p_1" Demo.int false).addParam "p" Demo.int false)
    |>.addMethod (Method.static "x")
    |>.addMethod (Method.static "é")

theorem crowded_apart :
    ∃ self, build ⟨[crowded]⟩ Demo.math {} = .ok self ∧
      ["x_1_0", "x_1", "__2"] = self.plans.map (·.ident) ∧ ["x_1_0", "x_1", "__2"].Nodup ∧
      ∃ plan ∈ self.plans, ["p_1", "p_1_0"] = plan.params.map variableName ∧
        ["p_1", "p_1_0"].Nodup := by
  have built : build ⟨[crowded]⟩ Demo.math {} = .ok (ofDescriptor Demo.math crowded {}) := rfl
  obtain ⟨idents, each, -⟩ := names_apart built
  have first : (ofDescriptor Demo.math crowded {}).plans.head? = some _ := rfl
  have listed := List.mem_of_head? first
  obtain ⟨-, -, params, -⟩ := each _ listed
  exact ⟨_, built, rfl, idents, _, listed, rfl, params⟩

end BindingModule

end NativeBridge
