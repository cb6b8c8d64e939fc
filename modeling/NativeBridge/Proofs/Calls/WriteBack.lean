import NativeBridge.Proofs.Calls.Exits

/-!
# Numbers written back

Write-backs go from the last parameter to the first, so that of several numbers written to one slot
the one of the first parameter stays.

* `writeBack_numbers`: after a run of write-backs of numbers, a slot holds what was written there
  last, or what it held before.
* `execute_writesBack`: what a call leaves in the slots below its window.
-/

namespace NativeBridge

def EvalStack.target? (stack : EvalStack) (index : StackPtr) : Option StackPtr :=
  match stack.slots[index]? with
  | some slot => if slot.tag = .stackSlotReference then some slot.index else none
  | none => none

theorem EvalStack.target?_set_ne (stack : EvalStack) {index other : StackPtr}
    (apart : other ≠ index) (slot : Slot) :
    target? { slots := stack.slots.set index slot } other = stack.target? other := by
  rw [target?, target?, List.getElem?_set_ne (Ne.symm apart)]

theorem EvalStack.resolve_of_target {stack : EvalStack} {index target : StackPtr}
    {location : Location} (refers : stack.target? index = some target)
    (resolved : stack.resolve index = .ok location) : location = .slot target := by
  rw [target?] at refers
  split at refers
  · rename_i slot found
    split at refers
    · rename_i reference
      cases refers
      obtain ⟨slot', found', resolved⟩ := bind_eq_ok.mp resolved
      obtain rfl : slot = slot' := Option.some.inj (found.symm.trans (get_eq_ok_iff.mp found'))
      rw [reference] at resolved
      obtain ⟨behind, -, resolved⟩ := bind_eq_ok.mp resolved
      exact (pure_eq_ok.mp resolved).symm
    · cases refers
  · cases refers

theorem Kind.encode?_null (kind : Kind) : kind.encode? .null = none := by
  cases kind <;> rfl

namespace Plan

theorem writeBack_numbers {top base : StackPtr} {args held : List Value} {steps : List WriteBack}
    {before after : Machine} (numeric : ∀ step ∈ steps, step.kind.isNumeric = true)
    (above : ∀ step ∈ steps, base ≤ top - step.offset)
    (refer : ∀ step ∈ steps, ∃ target, before.stack.target? (top - step.offset) = some target ∧
      target < base)
    (ran : before.run (writeBack top args held steps) = (.ok (), after)) (index : StackPtr) :
    (∃ first step rest slot, steps = first ++ step :: rest ∧
        before.stack.target? (top - step.offset) = some index ∧
        (∀ later ∈ rest, before.stack.target? (top - later.offset) ≠ some index) ∧
        step.kind.encode? (args.getD step.index .null) = some slot ∧
        after.stack.slots[index]? = some slot) ∨
      (∀ step ∈ steps, before.stack.target? (top - step.offset) ≠ some index) ∧
        after.stack.slots[index]? = before.stack.slots[index]? := by
  induction steps generalizing before with
  | nil =>
      obtain ⟨-, rfl⟩ := Prod.mk.inj ran
      refine .inr ⟨?_, rfl⟩
      intro step none
      cases none
  | cons step rest ih =>
      obtain ⟨target, refers, below⟩ := refer step List.mem_cons_self
      rcases run_writeBack_cons before top args held step rest with
        ⟨location, stored, located, wrote, continues⟩ | ⟨fault, stops⟩
      · obtain rfl := EvalStack.resolve_of_target refers located
        rw [continues] at ran
        have number := numeric step List.mem_cons_self
        cases wrote with
        | @number _ slot _ encoded inside =>
            -- The slots of the window are above every slot that is written, so they still refer
            -- where they did.
            have same (other : WriteBack) (member : other ∈ step :: rest) :
                EvalStack.target? { slots := before.stack.slots.set target slot }
                  (top - other.offset) = before.stack.target? (top - other.offset) := by
              have apart := Nat.lt_of_lt_of_le below (above other member)
              exact before.stack.target?_set_ne (Nat.ne_of_gt apart) slot
            have remaining := ih (fun other member => numeric other (List.mem_cons_of_mem _ member))
              (fun other member => above other (List.mem_cons_of_mem _ member))
              (fun other member => by
                have member := List.mem_cons_of_mem step member
                obtain ⟨next, refers, below⟩ := refer other member
                exact ⟨next, (same other member).trans refers, below⟩) ran
            rcases remaining with ⟨first, last, others, wrote, split, refers', final, rest⟩ |
              ⟨untouched, kept⟩
            · subst split
              refine .inl ⟨step :: first, last, others, wrote, rfl, ?_, ?_, rest⟩
              · rw [← same last (by simp)]
                exact refers'
              · intro later member
                rw [← same later (by simp [member])]
                exact final later member
            · have others (later : WriteBack) (member : later ∈ rest) :
                  before.stack.target? (top - later.offset) ≠ some index := by
                rw [← same later (List.mem_cons_of_mem _ member)]
                exact untouched later member
              by_cases here : target = index
              · subst here
                refine .inl ⟨[], step, rest, slot, rfl, refers, others, encoded, ?_⟩
                rw [kept]
                exact List.getElem?_set_self inside
              · refine .inr ⟨?_, ?_⟩
                · intro later member
                  rcases List.mem_cons.mp member with rfl | member
                  · rw [refers]
                    exact fun same => here (Option.some.inj same)
                  · exact others later member
                · rw [kept]
                  exact List.getElem?_set_ne here
        | entry object => exact absurd number (by simp [object])
        | fresh object => exact absurd number (by simp [object])
      · rw [stops] at ran
        cases ran

theorem Finished.below {ret newTop index : StackPtr} {value : Value} {before after : Machine}
    {step : ReturnStep} (finished : Finished ret value before step newTop after)
    (below : index < ret) : after.stack.slots[index]? = before.stack.slots[index]? := by
  cases finished with
  | void => rfl
  | value encoded inside => exact List.getElem?_set_ne (Nat.ne_of_gt below)
  | object inside => exact List.getElem?_set_ne (Nat.ne_of_gt below)

def RefersTo (method : Method) (stack : EvalStack) (top : StackPtr) (index : Nat)
    (target : StackPtr) : Prop :=
  ∃ param, method.params[index]? = some param ∧ param.byRef = true ∧
    stack.target? (top - method.params.length + index) = some target

theorem Built.refersTo_iff {declaring : TypeRef} {method : Method} {plan : Plan}
    (built : plan.Built declaring method) {stack : EvalStack} {top : StackPtr}
    (fits : plan.window ≤ top) {index : Nat} {target : StackPtr} :
    RefersTo method stack top index target ↔ ∃ step ∈ plan.writeBacks, step.index = index ∧
      stack.target? (top - step.offset) = some target := by
  have room := Nat.le_trans built.params_le_window fits
  constructor
  · rintro ⟨param, declared, byRef, refers⟩
    obtain ⟨inside, -⟩ := List.getElem?_eq_some_iff.mp declared
    obtain ⟨kind, known, -⟩ := built.params_getElem? declared
    refine ⟨{ index, offset := method.params.length - index, kind }, ?_, rfl, ?_⟩
    · exact built.mem_writeBacks_iff.mpr ⟨param, declared, byRef, known, rfl⟩
    · rw [StackPtr.sub_place inside room]
      exact refers
  · rintro ⟨step, member, rfl, refers⟩
    obtain ⟨param, declared, byRef, -, offset⟩ := built.mem_writeBacks_iff.mp member
    obtain ⟨inside, -⟩ := List.getElem?_eq_some_iff.mp declared
    rw [offset, StackPtr.sub_place inside room] at refers
    exact ⟨param, declared, byRef, refers⟩

theorem Built.last_of_least {declaring : TypeRef} {method : Method} {plan : Plan}
    (built : plan.Built declaring method) {stack : EvalStack} {top target : StackPtr}
    (fits : plan.window ≤ top) {first rest : List WriteBack} {step last : WriteBack}
    (split : plan.writeBacks = first ++ last :: rest) (member : step ∈ plan.writeBacks)
    (refers : stack.target? (top - step.offset) = some target)
    (least : ∀ earlier < step.index, ¬ RefersTo method stack top earlier target)
    (lastRefers : stack.target? (top - last.offset) = some target)
    (final : ∀ later ∈ rest, stack.target? (top - later.offset) ≠ some target) : step = last := by
  have listed : last ∈ plan.writeBacks := by
    rw [split]
    exact List.mem_append_right _ List.mem_cons_self
  have descend := built.writeBacks_descend
  rw [split] at member descend
  rcases List.mem_append.mp member with ahead | behind
  · have lower := (List.pairwise_append.mp descend).2.2 step ahead last List.mem_cons_self
    have also := (built.refersTo_iff fits).mpr ⟨last, listed, rfl, lastRefers⟩
    exact absurd also (least last.index lower)
  · rcases List.mem_cons.mp behind with same | behind
    · exact same
    · exact absurd refers (final step behind)

theorem Built.base_le_writeBack {declaring : TypeRef} {method : Method} {plan : Plan}
    (built : plan.Built declaring method) (top : StackPtr) {step : WriteBack}
    (member : step ∈ plan.writeBacks) : top - plan.window ≤ top - step.offset := by
  obtain ⟨param, -, -, -, offset⟩ := built.mem_writeBacks_iff.mp member
  have within : step.offset ≤ plan.window :=
    offset ▸ Nat.le_trans (Nat.sub_le _ _) built.params_le_window
  exact Nat.sub_le_sub_left within top

theorem encoded_present {kind : Kind} {args : List Value} {index : Nat} {slot : Slot}
    (encoded : kind.encode? (args.getD index .null) = some slot) :
    ∃ value, args[index]? = some value ∧ kind.encode? value = some slot := by
  rw [List.getD_eq_getElem?_getD] at encoded
  cases given : args[index]? with
  | some value =>
      rw [given] at encoded
      exact ⟨value, rfl, encoded⟩
  | none =>
      rw [given] at encoded
      cases kind.encode?_null.symm.trans encoded

/-- When all parameters passed by reference are numbers in slots below the window, a call leaves in
each of these slots the number of the first parameter that refers there, and no other slot below
the window changes. -/
theorem execute_writesBack {declaring : TypeRef} {method : Method} {ordinal : Nat} {plan : Plan}
    {body : NativeBody} {top newTop : StackPtr} {before after : Machine}
    (built : build declaring method ordinal = .ok plan)
    (numeric : ∀ step ∈ plan.params, step.byRef = true → step.kind.isNumeric = true)
    (refer : ∀ index param, method.params[index]? = some param → param.byRef = true →
      ∃ target, RefersTo method before.stack top index target ∧ target < top - plan.window)
    (ran : before.run (plan.execute body top) = (.ok newTop, after)) :
    ∃ entry, after.entered = before.entered ++ [entry] ∧
      (∀ index target, RefersTo method before.stack top index target →
        (∀ earlier < index, ¬ RefersTo method before.stack top earlier target) →
        ∃ param kind value slot, method.params[index]? = some param ∧
          param.type.kind? = some kind ∧
          (body entry.call entry.objects entry.types).args[index]? = some value ∧
          kind.encode? value = some slot ∧ after.stack.slots[target]? = some slot) ∧
      ∀ target < top - plan.window,
        (∀ index, ¬ RefersTo method before.stack top index target) →
        after.stack.slots[target]? = before.stack.slots[target]? := by
  have shape := build_built built
  obtain ⟨entry, value, held, start, middle, fits, entered, -, stack, -, wrote, finished⟩ :=
    execute_succeeds ran
  refine ⟨entry, entered, ?_⟩
  have number (step : WriteBack) (member : step ∈ plan.writeBacks) :
      step.kind.isNumeric = true := by
    rw [shape.writeBacks, writeBacksOf] at member
    obtain ⟨read, listed, rfl⟩ := List.mem_map.mp member
    obtain ⟨listed, byRef⟩ := List.mem_filter.mp listed
    exact numeric read listed byRef
  have below (step : WriteBack) (member : step ∈ plan.writeBacks) :
      ∃ target, start.stack.target? (top - step.offset) = some target ∧
        target < top - plan.window := by
    obtain ⟨param, declared, byRef, -, offset⟩ := shape.mem_writeBacks_iff.mp member
    obtain ⟨inside, -⟩ := List.getElem?_eq_some_iff.mp declared
    obtain ⟨target, ⟨other, -, -, refers⟩, lower⟩ := refer step.index param declared byRef
    refine ⟨target, ?_, lower⟩
    rw [stack, offset, StackPtr.sub_place inside (Nat.le_trans shape.params_le_window fits)]
    exact refers
  have last := writeBack_numbers number (fun _ => shape.base_le_writeBack top) below wrote
  rw [stack] at last below
  constructor
  · intro index target refers least
    obtain ⟨step, member, rfl, points⟩ := (shape.refersTo_iff fits).mp refers
    rcases last target with ⟨first, final, rest, slot, split, finalPoints, later, encoded, left⟩ |
      ⟨untouched, -⟩
    · obtain rfl := shape.last_of_least fits split member points least finalPoints later
      obtain ⟨param, declared, -, known, -⟩ := shape.mem_writeBacks_iff.mp member
      obtain ⟨found, refers, lower⟩ := below step member
      obtain rfl : target = found := Option.some.inj (points.symm.trans refers)
      obtain ⟨value, given, encoded⟩ := encoded_present encoded
      exact ⟨param, step.kind, value, slot, declared, known, given, encoded,
        (finished.below lower).trans left⟩
    · exact absurd points (untouched step member)
  · intro target lower unreferred
    rw [finished.below lower]
    rcases last target with ⟨first, step, rest, slot, split, refers, -⟩ | ⟨-, kept⟩
    · refine absurd ((shape.refersTo_iff fits).mpr ⟨step, ?_, rfl, refers⟩) (unreferred step.index)
      rw [split]
      exact List.mem_append_right _ List.mem_cons_self
    · exact kept

def share : Method where
  name := "share"
  isStatic := true
  params := [
    { name := "left", type := .primitive "i32", byRef := true },
    { name := "amount", type := .primitive "u8" },
    { name := "right", type := .primitive "i32", byRef := true }]
  result := some (.primitive "i32")

def sharePlan : Plan :=
  match build figure share 0 with
  | .ok plan => plan
  | .error _ => default

def sharers : Machine where
  stack := { slots := [.integer 1, .integer 2, .stackReference 0, .integer 3, .stackReference 0] }

def leaveSevenEight : NativeBody := fun call objects types =>
  { result := .ok (.i32 9), args := (call.args.set 0 (.i32 7)).set 2 (.i32 8), objects, types }

theorem share_writes_left : ∃ after, build figure share 0 = .ok sharePlan ∧
    sharers.run (sharePlan.execute leaveSevenEight 5) = (.ok 3, after) ∧
    RefersTo share sharers.stack 5 0 0 ∧ RefersTo share sharers.stack 5 2 0 ∧
    after.stack.slots[0]? = some (.integer 7) ∧ after.stack.slots[1]? = some (.integer 2) := by
  have built : build figure share 0 = .ok sharePlan := rfl
  have ran : sharers.run (sharePlan.execute leaveSevenEight 5) =
      (.ok 3, (sharers.run (sharePlan.execute leaveSevenEight 5)).2) := rfl
  have left : RefersTo share sharers.stack 5 0 0 := ⟨_, rfl, rfl, rfl⟩
  have right : RefersTo share sharers.stack 5 2 0 := ⟨_, rfl, rfl, rfl⟩
  have numeric : ∀ step ∈ sharePlan.params, step.byRef = true → step.kind.isNumeric = true := by
    decide
  have refer (index : Nat) (param : Parameter) (declared : share.params[index]? = some param)
      (byRef : param.byRef = true) : ∃ target, RefersTo share sharers.stack 5 index target ∧
        target < 5 - sharePlan.window := by
    match index with
    | 0 => exact ⟨0, left, by decide⟩
    | 1 =>
        cases declared
        cases byRef
    | 2 => exact ⟨0, right, by decide⟩
    | index + 3 => cases declared
  obtain ⟨entry, entered, writes, keeps⟩ := execute_writesBack built numeric refer ran
  obtain ⟨param, kind, value, slot, declared, known, given, encoded, wrote⟩ :=
    writes 0 0 left (fun earlier below => absurd below (Nat.not_lt_zero _))
  refine ⟨_, built, ran, left, right, ?_, ?_⟩
  · rw [wrote]
    cases entered
    cases declared
    cases known
    cases given
    exact encoded.symm
  · refine (keeps 1 (by decide) ?_).trans rfl
    rintro index ⟨param, declared, byRef, refers⟩
    match index with
    | 0 => cases refers
    | 1 =>
        cases declared
        cases byRef
    | 2 => cases refers
    | index + 3 => cases declared

end Plan

end NativeBridge
