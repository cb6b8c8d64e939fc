import NativeBridge.Proofs.Planning.Fingerprints

/-!
# Edits of the methods of a type

The number in the name of a trampoline counts the eligible methods that are declared before, whether
they have a plan or not. So what becomes of a method depends on the methods before it by their
eligibility alone, and on no method after it.

* `lists_outcomes`: a module lists what becomes of each method.
* `getElem?_outcomesFrom`: the ordinal of a method is the number of eligible ones before it.
* `outcomes_append`, `outcomes_replace`: methods that are added at the end, and one that takes the
  place of another.
* `build_edited`: the modules of a type before and after an edit.
-/

namespace NativeBridge

namespace TypeDescriptor

variable (descriptor : TypeDescriptor)

def isEligible (method : Method) : Bool := (descriptor.skipReason? method).isNone

def withMethods (methods : List Method) : TypeDescriptor := { descriptor with methods }

def append (more : List Method) : TypeDescriptor :=
  descriptor.withMethods (descriptor.methods ++ more)

def replace (index : Nat) (other : Method) : TypeDescriptor :=
  descriptor.withMethods (descriptor.methods.set index other)

end TypeDescriptor

namespace BindingModule

/-- What becomes of a declared method, as a module lists it. -/
inductive Outcome where
  | skipped (entry : String × SkipReason)
  | planned (plan : Plan)
  | failed (diagnostic : Diagnostic)

namespace Outcome

def skipped? : Outcome → Option (String × SkipReason)
  | .skipped entry => some entry
  | _ => none

def plan? : Outcome → Option Plan
  | .planned plan => some plan
  | _ => none

def diagnostic? : Outcome → Option Diagnostic
  | .failed diagnostic => some diagnostic
  | _ => none

def ofMethod (type : TypeRef) (descriptor : TypeDescriptor) (ordinal : Nat) (method : Method) :
    Outcome :=
  match descriptor.skipReason? method with
  | some reason => .skipped (method.name, reason)
  | none =>
      match Plan.build type method ordinal with
      | .ok plan => .planned plan
      | .error error => .failed ⟨type.reference, method.name, error.message⟩

end Outcome

def outcomesFrom (type : TypeRef) (descriptor : TypeDescriptor) : Nat → List Method → List Outcome
  | _, [] => []
  | ordinal, method :: rest =>
      .ofMethod type descriptor ordinal method ::
        outcomesFrom type descriptor
          (if descriptor.isEligible method then ordinal + 1 else ordinal) rest

def outcomes (type : TypeRef) (descriptor : TypeDescriptor) : List Outcome :=
  outcomesFrom type descriptor 0 descriptor.methods

variable {type : TypeRef} {descriptor : TypeDescriptor}

/-! ## Modules as lists of outcomes -/

theorem skipped_outcomesFrom (ordinal : Nat) (methods : List Method) :
    (outcomesFrom type descriptor ordinal methods).filterMap Outcome.skipped? =
      methods.filterMap fun method => (descriptor.skipReason? method).map (method.name, ·) := by
  induction methods generalizing ordinal with
  | nil => rfl
  | cons method rest ih =>
      rw [outcomesFrom, List.filterMap_cons, List.filterMap_cons, ih, Outcome.ofMethod]
      cases descriptor.skipReason? method with
      | some reason => rfl
      | none => cases Plan.build type method ordinal <;> rfl

theorem attempts_outcomesFrom (ordinal : Nat) (methods : List Method) :
    let attempts := ((methods.filter descriptor.isEligible).zipIdx ordinal).map
      fun (method, ordinal) => (method, Plan.build type method ordinal)
    (outcomesFrom type descriptor ordinal methods).filterMap Outcome.plan? = plansOf attempts ∧
      (outcomesFrom type descriptor ordinal methods).filterMap Outcome.diagnostic? =
        diagnosticsOf type.reference attempts := by
  induction methods generalizing ordinal with
  | nil => exact ⟨rfl, rfl⟩
  | cons method rest ih =>
      rw [outcomesFrom, List.filterMap_cons, List.filterMap_cons, Outcome.ofMethod]
      cases reason : descriptor.skipReason? method with
      | some reason =>
          have passed : descriptor.isEligible method = false := by
            rw [TypeDescriptor.isEligible, reason]
            rfl
          rw [List.filter_cons_of_neg (by simp [passed]), passed]
          exact ih ordinal
      | none =>
          have eligible : descriptor.isEligible method = true := by
            rw [TypeDescriptor.isEligible, reason]
            rfl
          obtain ⟨plans, diagnostics⟩ := ih (ordinal + 1)
          rw [List.filter_cons_of_pos eligible, eligible, if_pos rfl]
          cases attempt : Plan.build type method ordinal with
          | ok plan =>
              simp [plans, diagnostics, attempt, plansOf, diagnosticsOf, Outcome.plan?,
                Outcome.diagnostic?, Except.toOption]
          | error error =>
              simp [plans, diagnostics, attempt, plansOf, diagnosticsOf, Outcome.plan?,
                Outcome.diagnostic?, Except.toOption]

structure Lists (built : BindingModule) (outcomes : List Outcome) : Prop where
  plans : built.plans = outcomes.filterMap Outcome.plan?
  skipped : built.skipped = outcomes.filterMap Outcome.skipped?
  diagnostics : built.diagnostics = outcomes.filterMap Outcome.diagnostic?

theorem lists_outcomes (options : Options) :
    (ofDescriptor type descriptor options).Lists (outcomes type descriptor) := by
  obtain ⟨plans, diagnostics⟩ := @attempts_outcomesFrom type descriptor 0 descriptor.methods
  refine ⟨plans.symm, ?_, diagnostics.symm⟩
  rw [outcomes, skipped_outcomesFrom]
  show (descriptor.methods.filterMap _).map _ = _
  rw [List.map_filterMap]
  congr 1
  funext method
  cases descriptor.skipReason? method <;> rfl

/-! ## Methods before and after a place -/

theorem outcomesFrom_append (ordinal : Nat) (front back : List Method) :
    outcomesFrom type descriptor ordinal (front ++ back) =
      outcomesFrom type descriptor ordinal front ++
        outcomesFrom type descriptor (ordinal + front.countP descriptor.isEligible) back := by
  induction front generalizing ordinal with
  | nil => rfl
  | cons method rest ih =>
      rw [List.cons_append, outcomesFrom, outcomesFrom, ih, List.cons_append, List.countP_cons]
      congr 3
      split <;> omega

theorem getElem?_outcomesFrom (ordinal : Nat) (methods : List Method) (place : Nat) :
    (outcomesFrom type descriptor ordinal methods)[place]? =
      methods[place]?.map
        (.ofMethod type descriptor (ordinal + (methods.take place).countP descriptor.isEligible))
        := by
  induction methods generalizing ordinal place with
  | nil => rfl
  | cons method rest ih =>
      cases place with
      | zero => rfl
      | succ place =>
          rw [outcomesFrom, List.getElem?_cons_succ, List.getElem?_cons_succ, ih,
            List.take_succ_cons, List.countP_cons]
          congr 2
          split <;> omega

end BindingModule

namespace TypeDescriptor

theorem countP_isEligible_set {descriptor : TypeDescriptor} {methods : List Method} {index : Nat}
    {method other : Method} (found : methods[index]? = some method)
    (same : descriptor.isEligible other = descriptor.isEligible method) (place : Nat) :
    ((methods.set index other).take place).countP descriptor.isEligible =
      (methods.take place).countP descriptor.isEligible := by
  have kept : (methods.set index other).map descriptor.isEligible =
      methods.map descriptor.isEligible := by
    obtain ⟨bound, rfl⟩ := List.getElem?_eq_some_iff.mp found
    rw [List.map_set, same, ← List.getElem_map descriptor.isEligible (h := by simpa using bound),
      List.set_getElem_self]
  have counted (methods : List Method) :
      methods.countP descriptor.isEligible = (methods.map descriptor.isEligible).countP id := by
    rw [List.countP_map]
    rfl
  rw [counted, counted, List.map_take, List.map_take, kept]

end TypeDescriptor

namespace BindingModule

variable {type : TypeRef} {descriptor : TypeDescriptor}

-- What becomes of a method is read from the properties of its type and not from the other methods.
theorem outcomesFrom_withMethods (methods : List Method) (ordinal : Nat) (rest : List Method) :
    outcomesFrom type (descriptor.withMethods methods) ordinal rest =
      outcomesFrom type descriptor ordinal rest := by
  induction rest generalizing ordinal with
  | nil => rfl
  | cons method rest ih =>
      rw [outcomesFrom, outcomesFrom, ih]
      rfl

theorem outcomes_withMethods (methods : List Method) :
    outcomes type (descriptor.withMethods methods) = outcomesFrom type descriptor 0 methods :=
  outcomesFrom_withMethods methods 0 methods

theorem outcomes_append (more : List Method) :
    outcomes type descriptor <+: outcomes type (descriptor.append more) := by
  rw [TypeDescriptor.append, outcomes_withMethods, outcomesFrom_append]
  exact List.prefix_append _ _

theorem outcomes_replace {index : Nat} {method other : Method}
    (found : descriptor.methods[index]? = some method)
    (same : descriptor.isEligible other = descriptor.isEligible method) {place : Nat}
    (elsewhere : place ≠ index) :
    (outcomes type (descriptor.replace index other))[place]? =
      (outcomes type descriptor)[place]? := by
  rw [TypeDescriptor.replace, outcomes_withMethods, outcomes, getElem?_outcomesFrom,
    getElem?_outcomesFrom, TypeDescriptor.countP_isEligible_set found same,
    List.getElem?_set_ne elsewhere.symm]

/-- If methods are added at the end of a type, then the plans, the skipped methods and the
diagnostics come first in the new lists, and if a method is replaced by one that is eligible like
it, then every other method has the same outcome, and so the same plan with the same number and
signature. -/
theorem build_edited {catalogue : Catalogue} (described : catalogue.describe type = .ok descriptor)
    (options : Options) :
    ∃ self, build catalogue type options = .ok self ∧ self.Lists (outcomes type descriptor) ∧
      (∀ (more : List Method) (edited : Catalogue),
        edited.describe type = .ok (descriptor.append more) →
          ∃ after, build edited type options = .ok after ∧ self.plans <+: after.plans ∧
            self.skipped <+: after.skipped ∧ self.diagnostics <+: after.diagnostics) ∧
      ∀ (index : Nat) (method other : Method) (edited : Catalogue),
        descriptor.methods[index]? = some method →
          descriptor.isEligible other = descriptor.isEligible method →
            edited.describe type = .ok (descriptor.replace index other) →
              ∃ after, build edited type options = .ok after ∧
                after.Lists (outcomes type (descriptor.replace index other)) ∧
                  ∀ place ≠ index, (outcomes type (descriptor.replace index other))[place]? =
                    (outcomes type descriptor)[place]? := by
  have lists : (ofDescriptor type descriptor options).Lists (outcomes type descriptor) :=
    lists_outcomes options
  refine ⟨_, build_eq_ok described options, lists, ?_, ?_⟩
  · intro more edited redescribed
    have after := @lists_outcomes type (descriptor.append more) options
    -- The number of a method counts the eligible ones before it only.
    have first := @outcomes_append type descriptor more
    refine ⟨_, build_eq_ok redescribed options, ?_, ?_, ?_⟩
    · rw [lists.plans, after.plans]
      exact first.filterMap _
    · rw [lists.skipped, after.skipped]
      exact first.filterMap _
    · rw [lists.diagnostics, after.diagnostics]
      exact first.filterMap _
  · intro index method other edited found same redescribed
    refine ⟨_, build_eq_ok redescribed options, lists_outcomes options, ?_⟩
    intro place elsewhere
    exact outcomes_replace found same elsewhere

def modulus : Method :=
  Demo.special (((Method.static "op_Modulus").addParam "a" Demo.int false).addParam "b" Demo.int
    false)

theorem mathDescriptor_edited :
    (∃ after plan,
      build ⟨[Demo.mathDescriptor.replace 0 modulus]⟩ Demo.math {} = .ok after ∧
        after.Lists (outcomes Demo.math (Demo.mathDescriptor.replace 0 modulus)) ∧
        (outcomes Demo.math (Demo.mathDescriptor.replace 0 modulus))[1]? = some (.planned plan) ∧
        plan.ident = "Swap_1") ∧
    ∃ self after, build Demo.catalogue Demo.math {} = .ok self ∧
      build ⟨[Demo.mathDescriptor.append [modulus]]⟩ Demo.math {} = .ok after ∧
        self.plans <+: after.plans := by
  obtain ⟨self, built, -, longer, replaced⟩ :=
    @build_edited Demo.math Demo.mathDescriptor Demo.catalogue rfl {}
  refine ⟨?_, ?_⟩
  · obtain ⟨after, rebuilt, lists, kept⟩ :=
      replaced 0 _ modulus ⟨[Demo.mathDescriptor.replace 0 modulus]⟩ rfl (by decide) rfl
    exact ⟨after, _, rebuilt, lists, kept 1 (by decide), by decide⟩
  · obtain ⟨after, rebuilt, plans, -⟩ :=
      longer [modulus] ⟨[Demo.mathDescriptor.append [modulus]]⟩ rfl
    exact ⟨self, after, built, rebuilt, plans⟩

end BindingModule

end NativeBridge
