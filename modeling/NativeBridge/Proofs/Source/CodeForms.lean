import NativeBridge.Proofs.Planning.PlanShape
import NativeBridge.Proofs.Source.Identifiers
import NativeBridge.Source.Stub

/-!
# Which plans have a form in code

A plan says what is to be done; whether code can say it too depends on its names. The types that
code has to spell must read as types, what is called must have a name, and neither an interface nor
an indexer without a receiver can be called at all.

* `ofName_trampolineIdent`: the name of a trampoline is never the obstacle.
* `Source.exists_stub_iff`: a plan has a stub exactly if it has a form in code.
-/

namespace NativeBridge

/-! ## Names of trampolines -/

theorem all_isAsciiWord_of_isAsciiIdentifier {text : List Char}
    (identifier : isAsciiIdentifier text = true) : text.all Text.isAsciiWord = true := by
  cases text with
  | nil => cases identifier
  | cons c rest => exact (Bool.and_eq_true_iff.mp identifier).2

theorem isAsciiIdentifier_append {front rest : List Char} (starts : isAsciiIdentifier front = true)
    (word : rest.all Text.isAsciiWord = true) : isAsciiIdentifier (front ++ rest) = true := by
  cases front with
  | nil => cases starts
  | cons c front =>
      rw [isAsciiIdentifier, Bool.and_eq_true] at starts
      rw [List.cons_append, isAsciiIdentifier, starts.1, ← List.cons_append, List.all_append,
        starts.2, word]
      rfl

theorem isAsciiIdentifier_sanitizedChars (name : List Char) :
    isAsciiIdentifier (sanitizedChars name) = true := by
  have replaced : (name.map fun c => if Text.isAsciiWord c then c else '_').all
      Text.isAsciiWord = true := by
    rw [List.all_map, List.all_eq_true]
    intro c _
    simp only [Function.comp_apply]
    split
    · assumption
    · rfl
  rw [sanitizedChars]
  generalize (name.map fun c => if Text.isAsciiWord c then c else '_') = word at replaced
  cases word with
  | nil => rfl
  | cons c rest =>
      simp only
      split
      · rw [isAsciiIdentifier, List.all_cons, replaced]
        rfl
      · rename_i noDigit
        rw [isAsciiIdentifier, replaced, Bool.and_true, Bool.not_eq_true']
        simpa using noDigit

theorem toList_trampolineIdent (name : String) (ordinal : Nat) :
    (trampolineIdent name ordinal).toList =
      sanitizedChars name.toList ++ '_' :: Nat.toDigits 10 ordinal := by
  simp [trampolineIdent, sanitized]

theorem isAsciiDigit_toDigits {number : Nat} {c : Char} (digit : c ∈ Nat.toDigits 10 number) :
    Text.isAsciiDigit c = true := by
  have decimal := Nat.isDigit_of_mem_toDigits (by decide) (by decide) digit
  simpa [Text.isAsciiDigit, Char.isDigit, Char.le_def] using decimal

theorem isAsciiIdentifier_trampolineIdent (name : String) (ordinal : Nat) :
    isAsciiIdentifier (trampolineIdent name ordinal).toList = true := by
  rw [toList_trampolineIdent]
  apply isAsciiIdentifier_append (isAsciiIdentifier_sanitizedChars _)
  rw [List.all_cons, Bool.and_eq_true, List.all_eq_true]
  refine ⟨rfl, fun c digit => ?_⟩
  rw [Text.isAsciiWord, isAsciiDigit_toDigits digit, Bool.or_true, Bool.true_or]

namespace Source

theorem trampolineIdent_not_mem (name : String) (ordinal : Nat) {words : List String}
    (noDigits : words.all (·.toList.all (!Text.isAsciiDigit ·)) = true) :
    trampolineIdent name ordinal ∉ words := by
  intro listed
  -- The number at the end has a digit, and the words have none.
  obtain ⟨c, digit⟩ := List.exists_mem_of_ne_nil _ (Nat.toDigits_ne_nil (n := ordinal) (b := 10))
  have member : c ∈ (trampolineIdent name ordinal).toList := by
    rw [toList_trampolineIdent]
    exact List.mem_append_right _ (List.mem_cons_of_mem _ digit)
  have none := List.all_eq_true.mp (List.all_eq_true.mp noDigits _ listed) c member
  rw [isAsciiDigit_toDigits digit] at none
  cases none

theorem isWritable_trampolineIdent (name : String) (ordinal : Nat) :
    IsWritable (trampolineIdent name ordinal) :=
  ⟨isAsciiIdentifier_trampolineIdent name ordinal,
    trampolineIdent_not_mem name ordinal (by decide)⟩

theorem ofName_trampolineIdent (name : String) (ordinal : Nat) :
    Ident.ofName (trampolineIdent name ordinal) = .ok { name := trampolineIdent name ordinal } := by
  have chars :=
    all_isAsciiWord_of_isAsciiIdentifier (isAsciiIdentifier_trampolineIdent name ordinal)
  have listed : trampolineIdent name ordinal ∉ keywords :=
    trampolineIdent_not_mem name ordinal (by decide)
  rw [Ident.ofName_eq chars, if_pos (isWritable_trampolineIdent name ordinal),
    decide_eq_false listed]

end Source

/-! ## Results of steps -/

section Results

variable {ε α β : Type}

theorem exists_map_iff {first : Except ε α} {f : α → β} :
    (∃ result, f <$> first = .ok result) ↔ ∃ value, first = .ok value := by
  simp only [map_eq_ok]
  constructor
  · rintro ⟨result, value, done, -⟩
    exact ⟨value, done⟩
  · rintro ⟨value, done⟩
    exact ⟨f value, value, done, rfl⟩

theorem exists_bind_iff {first : Except ε α} {next : α → Except ε β} :
    (∃ result, first >>= next = .ok result) ↔
      ∃ value, first = .ok value ∧ ∃ result, next value = .ok result := by
  simp only [bind_eq_ok]
  constructor
  · rintro ⟨result, value, done, rest⟩
    exact ⟨value, done, result, rest⟩
  · rintro ⟨value, done, result, rest⟩
    exact ⟨result, value, done, rest⟩

theorem exists_mapM_iff {step : α → Except ε β} {elements : List α} :
    (∃ results, elements.mapM step = .ok results) ↔
      ∀ element ∈ elements, ∃ result, step element = .ok result := by
  constructor
  · rintro ⟨results, taken⟩ element member
    obtain ⟨place, found⟩ := List.mem_iff_getElem?.mp member
    obtain ⟨result, -, done⟩ := forall₂_getElem? (mapM_eq_ok.mp taken) found
    exact ⟨result, done⟩
  · intro each
    cases taken : elements.mapM step with
    | ok results => exact ⟨results, rfl⟩
    | error fault =>
        obtain ⟨element, member, failed⟩ := mapM_eq_error taken
        obtain ⟨result, done⟩ := each element member
        cases failed.symm.trans done

end Results

/-! ## Plans as they come from planning -/

namespace Source

structure Planned (plan : Plan) : Prop where
  ident : ∃ name ordinal, plan.ident = trampolineIdent name ordinal
  params : ∀ step ∈ plan.params, step.type.kind? = some step.kind
  receiver : ∀ step, plan.receiver = some step →
    step.type = plan.declaring ∧ step.type.kind? = some step.kind
  result : plan.resultType.isVoid = true ∨ plan.resultType.kind?.isSome = true
  writeBacks : plan.writeBacks = Plan.writeBacksOf plan.params

theorem planned_of_build {declaring : TypeRef} {method : Method} {ordinal : Nat} {plan : Plan}
    (built : Plan.build declaring method ordinal = .ok plan) : Planned plan := by
  have describes := Plan.build_describes built
  have shape := Plan.build_built built
  refine ⟨⟨_, _, describes.ident⟩, ?_, ?_, ?_, shape.writeBacks⟩
  · intro step member
    obtain ⟨index, param, kind, -, known, rfl⟩ := shape.step_of_mem member
    exact known
  · intro step received
    have receiver := shape.receiver_eq
    split at receiver
    · cases receiver.symm.trans received
    · obtain ⟨kind, known, made⟩ := receiver
      obtain rfl := Option.some.inj (made.symm.trans received)
      exact ⟨describes.owner.symm, known⟩
  · have ret := Plan.returnStep_eq_ok.mp shape.ret
    rw [describes.result]
    split at ret
    · exact .inl ‹_›
    · obtain ⟨kind, known, -⟩ := ret
      exact .inr (by rw [known]; rfl)

def refuseInterface (plan : Plan) : Except RenderFault Unit :=
  match plan.receiver with
  | some step =>
      if step.type.category == .interface then .error (.interfaceReceiver plan.signature.text)
      else .ok ()
  | none => .ok ()

theorem refuseInterface_eq_ok_iff {plan : Plan} (planned : Planned plan) :
    refuseInterface plan = .ok () ↔
      (plan.isStatic = true ∨ plan.declaring.category ≠ .interface) := by
  rw [refuseInterface, Plan.isStatic]
  cases received : plan.receiver with
  | none => simp
  | some step =>
      rw [← (planned.receiver step received).1]
      by_cases interface : step.type.category = .interface <;> simp [interface]

end Source

/-! ## Forms in code -/

variable [Source.Grammar]

namespace Source

def IsNameable (name : String) : Prop := ∃ ident, Ident.ofName name = .ok ident

def IsSpellable (type : TypeRef) : Prop := ∃ code, CodeType.ofReference type.reference = .ok code

instance (name : String) : Decidable (IsNameable name) :=
  match found : Ident.ofName name with
  | .ok ident => .isTrue ⟨ident, found⟩
  | .error _ => .isFalse fun ⟨_, other⟩ => by cases found.symm.trans other

instance (type : TypeRef) : Decidable (IsSpellable type) :=
  match found : CodeType.ofReference type.reference with
  | .ok code => .isTrue ⟨code, found⟩
  | .error _ => .isFalse fun ⟨_, other⟩ => by cases found.symm.trans other

end Source

open Source

/-- A type that code can pass: only structs are passed under their own type. -/
def TypeRef.IsPassable (type : TypeRef) : Prop := type.category = .struct → IsSpellable type

instance (type : TypeRef) : Decidable type.IsPassable := inferInstanceAs (Decidable (_ → _))

def Dispatch.HasCodeForm (isStatic : Bool) : Dispatch → Prop
  | .static method | .onInstance method => IsNameable method
  | .propertyGet property false => IsNameable property
  | .propertySet property false => IsNameable ("set_" ++ property)
  | .propertyGet _ true | .propertySet _ true => isStatic = false
  | .operator _ => True

instance (isStatic : Bool) : (dispatch : Dispatch) → Decidable (dispatch.HasCodeForm isStatic)
  | .static _ | .onInstance _ | .propertyGet _ false | .propertySet _ false =>
      inferInstanceAs (Decidable (IsNameable _))
  | .propertyGet _ true | .propertySet _ true => inferInstanceAs (Decidable (_ = _))
  | .operator _ => .isTrue trivial

/-- A plan that code can carry out. -/
structure Plan.HasCodeForm (plan : Plan) : Prop where
  params : ∀ step ∈ plan.params, step.type.IsPassable
  result : plan.resultType.IsPassable
  declaring : (plan.isStatic = true ∨ plan.declaring.category = .classType ∨
    plan.declaring.category = .struct) → IsSpellable plan.declaring
  receiver : plan.isStatic = true ∨ plan.declaring.category ≠ .interface
  dispatch : plan.dispatch.HasCodeForm plan.isStatic

instance (plan : Plan) : Decidable plan.HasCodeForm :=
  decidable_of_iff
    ((∀ step ∈ plan.params, step.type.IsPassable) ∧ plan.resultType.IsPassable ∧
      ((plan.isStatic = true ∨ plan.declaring.category = .classType ∨
        plan.declaring.category = .struct) → IsSpellable plan.declaring) ∧
      (plan.isStatic = true ∨ plan.declaring.category ≠ .interface) ∧
      plan.dispatch.HasCodeForm plan.isStatic)
    ⟨fun ⟨params, result, declaring, receiver, dispatch⟩ =>
      ⟨params, result, declaring, receiver, dispatch⟩,
    fun form => ⟨form.params, form.result, form.declaring, form.receiver, form.dispatch⟩⟩

/-! ## Parts of a stub -/

namespace Source

theorem exists_form_iff {type : TypeRef} (known : type.isVoid = true ∨ type.kind?.isSome = true) :
    (∃ form, NativeForm.ofType type = .ok form) ↔ type.IsPassable := by
  rw [NativeForm.ofType, TypeRef.IsPassable]
  rw [TypeRef.isVoid, TypeRef.kind?] at known
  cases category : type.category with
  | primitive =>
      rw [category] at known
      cases kind : Kind.ofPrimitiveName? type.name with
      | none => simp [kind] at known
      | some kind => simp
  | struct =>
      rw [imp_iff_right rfl]
      exact exists_map_iff
  | _ => simp

theorem exists_read_iff {step : ParamStep} (known : step.type.kind? = some step.kind) :
    (∃ read, Read.ofStep step = .ok read) ↔ step.type.IsPassable := by
  rw [← exists_form_iff (.inr (by rw [known]; rfl))]
  exact exists_map_iff

theorem exists_owner_iff {plan : Plan} :
    (∃ owner, Call.owner? plan = .ok owner) ↔
      (plan.isStatic = true → IsSpellable plan.declaring) := by
  rw [Call.owner?]
  cases plan.isStatic with
  | true =>
      rw [imp_iff_right rfl]
      exact exists_map_iff
  | false => exact iff_of_true ⟨none, rfl⟩ nofun

theorem isSome_owner {plan : Plan} {owner : Option CodeType}
    (owned : Call.owner? plan = .ok owner) : owner.isSome = plan.isStatic := by
  rw [Call.owner?] at owned
  cases static : plan.isStatic with
  | true =>
      rw [static, if_pos rfl] at owned
      obtain ⟨type, -, rfl⟩ := map_eq_ok.mp owned
      rfl
  | false =>
      rw [static] at owned
      obtain rfl := pure_eq_ok.mp owned
      rfl

theorem exists_call_iff {plan : Plan} {owner : Option CodeType}
    (owned : Call.owner? plan = .ok owner) :
    (∃ call, Call.ofDispatch plan owner = .ok call) ↔
      plan.dispatch.HasCodeForm plan.isStatic := by
  rw [Call.ofDispatch, ← isSome_owner owned]
  cases plan.dispatch with
  | static | onInstance => exact exists_map_iff
  | propertyGet property indexer | propertySet property indexer =>
      cases indexer with
      | false => exact exists_map_iff
      | true => cases owner <;> simp [Dispatch.HasCodeForm]
  | operator op => cases op <;> simp [Dispatch.HasCodeForm]

theorem exists_write_of_read {plan : Plan} (planned : Planned plan)
    (passable : ∀ step ∈ plan.params, step.type.IsPassable) :
    ∀ step ∈ plan.writeBacks, ∃ write, Write.ofStep plan step = .ok write := by
  intro step member
  rw [planned.writeBacks, Plan.writeBacksOf] at member
  obtain ⟨param, listed, rfl⟩ := List.mem_map.mp member
  have listed := (List.mem_filter.mp listed).1
  rw [Write.ofStep]
  cases found : plan.params.find? (·.index == param.index) with
  | none => exact absurd (List.find?_eq_none.mp found param listed) (by simp)
  | some read =>
      have listed := List.mem_of_find?_eq_some found
      have known : read.type.kind?.isSome = true := by rw [planned.params read listed]; rfl
      exact exists_map_iff.mpr ((exists_form_iff (.inr known)).mpr (passable read listed))

theorem exists_use_iff {plan : Plan} (planned : Planned plan) {step : ReceiverStep}
    (received : plan.receiver = some step) :
    (∃ use, SelfRead.useOf plan step.type = .ok use) ↔
      plan.declaring.category ≠ .interface ∧
        (plan.declaring.category = .classType ∨ plan.declaring.category = .struct →
          IsSpellable plan.declaring) := by
  obtain ⟨type, known⟩ := planned.receiver step received
  have form := exists_form_iff (.inr (show step.type.kind?.isSome = true by rw [known]; rfl))
  rw [TypeRef.IsPassable] at form
  rw [SelfRead.useOf, ← type]
  cases category : step.type.category with
  | classType | struct =>
      simp only [ne_eq, reduceCtorEq, not_false_eq_true, true_and, true_or, or_true, forall_const]
      exact exists_map_iff
  | interface => simp
  | _ =>
      simp only [category, reduceCtorEq, false_implies, iff_true] at form
      simp only [ne_eq, reduceCtorEq, not_false_eq_true, true_and, or_self, false_implies, iff_true]
      exact exists_map_iff.mpr form

def selfRead (plan : Plan) : Except RenderFault (Option SelfRead) :=
  plan.receiver.mapM fun step => do return SelfRead.ofStep step (← SelfRead.useOf plan step.type)

def resultForm (plan : Plan) : Except RenderFault (Option NativeForm) :=
  if plan.resultType.isVoid then .ok none else some <$> NativeForm.ofType plan.resultType

theorem Stub.ofPlan_eq (plan : Plan) : Stub.ofPlan plan = (do
    let name ← Ident.ofName plan.ident
    let reads ← plan.params.mapM Read.ofStep
    refuseInterface plan
    let owner ← Call.owner? plan
    let call ← Call.ofDispatch plan owner
    let receiver ← selfRead plan
    let result ← resultForm plan
    let writes ← plan.writeBacks.mapM (Write.ofStep plan)
    return {
      name, signature := plan.signature, window := plan.window, reads, receiver, call, result
      writes, ret := plan.ret }) := by
  rw [Stub.ofPlan]
  congr 1
  funext name
  congr 1
  funext reads
  rw [refuseInterface, selfRead, resultForm]
  cases plan.receiver with
  | none => cases plan.resultType.isVoid <;> rfl
  | some step =>
      cases plan.resultType.isVoid <;> cases interface : step.type.category == .interface
      all_goals simp only [interface, if_true, Bool.false_eq_true, if_false]
      all_goals rfl

theorem exists_result_iff {plan : Plan} (planned : Planned plan) :
    (∃ result, resultForm plan = .ok result) ↔ plan.resultType.IsPassable := by
  rw [resultForm]
  cases void : plan.resultType.isVoid with
  | true =>
      have category : plan.resultType.category = .void := by simpa [TypeRef.isVoid] using void
      exact iff_of_true ⟨none, rfl⟩ (by simp [TypeRef.IsPassable, category])
  | false =>
      rw [← exists_form_iff planned.result]
      exact exists_map_iff

theorem exists_self_iff {plan : Plan} (planned : Planned plan) :
    (∃ read, selfRead plan = .ok read) ↔
      (plan.isStatic = true ∨ plan.declaring.category ≠ .interface) ∧
        (plan.isStatic = false → plan.declaring.category = .classType ∨
          plan.declaring.category = .struct → IsSpellable plan.declaring) := by
  rw [selfRead, Plan.isStatic]
  cases received : plan.receiver with
  | none => exact iff_of_true ⟨none, rfl⟩ ⟨.inl rfl, nofun⟩
  | some step =>
      simp only [Option.isNone_some, Bool.false_eq_true, false_or, forall_const]
      rw [← exists_use_iff planned received]
      exact exists_map_iff.trans (exists_map_iff (f := SelfRead.ofStep step))

theorem exists_stub_iff {plan : Plan} (planned : Planned plan) :
    (∃ stub, Stub.ofPlan plan = .ok stub) ↔ plan.HasCodeForm := by
  have params : (∃ reads, plan.params.mapM Read.ofStep = .ok reads) ↔
      ∀ step ∈ plan.params, step.type.IsPassable :=
    exists_mapM_iff.trans
      (forall₂_congr fun step member => exists_read_iff (planned.params step member))
  simp only [Stub.ofPlan_eq, exists_bind_iff]
  constructor
  · rintro ⟨name, -, reads, read, -, -, owner, owned, call, called, self, taken, result, given, -⟩
    obtain ⟨notInterface, borrowed⟩ := (exists_self_iff planned).mp ⟨self, taken⟩
    refine ⟨params.mp ⟨reads, read⟩, (exists_result_iff planned).mp ⟨result, given⟩, ?_,
      notInterface, (exists_call_iff owned).mp ⟨call, called⟩⟩
    cases static : plan.isStatic with
    | true => exact fun _ => exists_owner_iff.mp ⟨owner, owned⟩ static
    | false => simpa using borrowed static
  · intro form
    obtain ⟨name, ordinal, ident⟩ := planned.ident
    have named := ofName_trampolineIdent name ordinal
    obtain ⟨reads, read⟩ := params.mpr form.params
    obtain ⟨owner, owned⟩ := exists_owner_iff.mpr fun static => form.declaring (.inl static)
    obtain ⟨call, called⟩ := (exists_call_iff owned).mpr form.dispatch
    obtain ⟨self, taken⟩ := (exists_self_iff planned).mpr
      ⟨form.receiver, fun _ borrowed => form.declaring (.inr borrowed)⟩
    obtain ⟨result, given⟩ := (exists_result_iff planned).mpr form.result
    obtain ⟨writes, written⟩ := exists_mapM_iff.mpr (exists_write_of_read planned form.params)
    exact ⟨_, ident ▸ named, reads, read, (), (refuseInterface_eq_ok_iff planned).mpr form.receiver,
      owner, owned, call, called, self, taken, result, given, writes, written, _, rfl⟩

end Source

end NativeBridge
