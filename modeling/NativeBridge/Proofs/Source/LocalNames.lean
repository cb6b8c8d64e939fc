import NativeBridge.Proofs.Source.BoundNames
import NativeBridge.Proofs.Source.CodeForms

/-!
# Local names of stubs

A stub binds names of two kinds: the variables of its parameters, and a few names that all stubs
have in common. Whatever else it spells, such as types, the method and the path of the runtime,
binds nothing.

* `boundNames_stub`: the names that a stub binds, in order.
* `quietStub_of_plan`: what a stub of a plan spells.
* `mem_boundNames`: the kinds of names.
-/

namespace NativeBridge.Source

/-! ## Forms -/

def NativeForm.spelled : NativeForm → List Token
  | .struct type _ => type.tokens
  | _ => []

def ReceiverUse.spelled : ReceiverUse → List Token
  | .borrowed type _ => type.tokens
  | .converted form => form.spelled

section Forms

variable {rt value : List Token} (path : Quiet rt)
include path

theorem quiet_typeTokens {form : NativeForm} (quiet : Quiet form.spelled) :
    Quiet (form.typeTokens rt) := by
  cases form with
  | unit => exact (by decide : Quiet (parens []))
  | number kind =>
      show Quiet [.word kind.typeName]
      cases kind <;> decide
  | string => exact (by decide : Quiet (code "String"))
  | struct type reference => exact quiet
  | handle => exact quiet_append.mpr ⟨path, by decide⟩

theorem quiet_takeTokens {form : NativeForm} (quiet : Quiet form.spelled) (taken : Quiet value) :
    Quiet (form.takeTokens rt value) := by
  have type := quiet_typeTokens path quiet
  cases form with
  | struct spelled reference =>
      simp +decide [NativeForm.takeTokens, path, show Quiet spelled.tokens from quiet, taken]
  | _ => simp +decide [NativeForm.takeTokens, path, type, taken]

theorem quiet_giveTokens {form : NativeForm} (given : Quiet value) :
    Quiet (form.giveTokens rt value) := by
  cases form <;> simp +decide [NativeForm.giveTokens, path, given]

theorem quiet_kindTokens (kind : Kind) : Quiet (kindTokens rt kind) := by
  have name : Quiet [.word kind.name] := by cases kind <;> decide
  exact quiet_append.mpr ⟨quiet_append.mpr ⟨path, by decide⟩, name⟩

theorem quiet_coercionTokens (coercion : Option Coercion) : Quiet (coercionTokens rt coercion) := by
  cases coercion with
  | none => exact (by decide : Quiet (code "None"))
  | some coercion =>
      have mode : Quiet [.word coercion.mode.name] := by cases coercion.mode <;> decide
      rw [coercionTokens]
      simp +decide only [quiet_append, quiet_parens, quiet_commaSeparated, path, mode,
        List.forall_mem_cons, quiet_literal]

end Forms

/-! ## Reads -/

theorem boundNames_declared {name : String} (plain : name ∉ ["fn", "let", "mut"]) (byRef : Bool)
    (rest : List Token) :
    boundNames (code "let" ++ ((if byRef then code "mut" else []) ++
      ([.word name] ++ (code ":" ++ rest)))) = name :: boundNames rest := by
  obtain ⟨notFn, notLet, notMut⟩ : name ≠ "fn" ∧ name ≠ "let" ∧ name ≠ "mut" := by simpa using plain
  have silent (rest : List Token) : boundBy (.word name) rest = [] :=
    boundBy_eq_nil (by simp [bindingTokens, notFn, notLet]) rest
  have named (rest : List Token) : declaredName (.word name :: rest) = [name] := by
    unfold declaredName
    split
    · rename_i same
      exact absurd (Token.word.inj (List.cons.inj same).1) notMut
    · rename_i same
      rw [Token.word.inj (List.cons.inj same).1]
    · rename_i other
      exact absurd rfl (other name rest)
  cases byRef with
  | true =>
      show [name] ++ (boundBy (.word name) _ ++ boundNames rest) = _
      rw [silent]
      rfl
  | false =>
      show declaredName _ ++ (boundBy (.word name) _ ++ boundNames rest) = _
      rw [silent]
      exact congrArg (· ++ boundNames rest) (named _)

def SelfRead.localNames (read : SelfRead) : List String :=
  "this_value" :: "at" :: "location" :: "value" ::
    match read.use with
    | .converted _ => ["this"]
    | .borrowed _ _ => []

section Reads

variable {rt : List Token} (path : Quiet rt)
include path

theorem boundNames_load (offset : Nat) (resolve : Bool) (kind : Kind) (coercion : Option Coercion)
    (rest : List Token) :
    boundNames (loadTokens rt offset resolve kind coercion ++ rest) =
      "at" :: "location" :: "value" :: boundNames rest := by
  have first (rest : List Token) :
      boundNames (code "let at = esp.minus" ++ rest) = "at" :: boundNames rest := rfl
  have second (rest : List Token) :
      boundNames (code "let location =" ++ rest) = "location" :: boundNames rest := rfl
  have third (rest : List Token) :
      boundNames (code "let value = ctx.load" ++ rest) = "value" :: boundNames rest := rfl
  have kindQuiet := quiet_kindTokens path kind
  have coercionQuiet := quiet_coercionTokens path coercion
  cases resolve
  all_goals
    simp +decide (disch := simp +decide [path, kindQuiet, coercionQuiet]) only [loadTokens,
      List.append_assoc, first, second, third, boundNames_append]

theorem boundNames_read {read : Read} (plain : read.variableName ∉ ["fn", "let", "mut"])
    (quiet : Quiet read.form.spelled) (rest : List Token) :
    boundNames (read.tokens rt ++ rest) =
      read.variableName :: "at" :: "location" :: "value" :: boundNames rest := by
  have type := quiet_typeTokens path quiet
  have taken := quiet_takeTokens path quiet (by decide : Quiet (code "value"))
  have free : Quiet (freeTokens read.free) := by cases read.free <;> decide
  simp (disch := first | assumption | decide) only [Read.tokens, braces, List.append_assoc,
    boundNames_declared plain, boundNames_load path, boundNames_append]

theorem boundNames_self {read : SelfRead} (quiet : Quiet read.use.spelled) (rest : List Token) :
    boundNames (read.tokens rt ++ rest) = read.localNames ++ boundNames rest := by
  have first (rest : List Token) :
      boundNames (code "let this_value =" ++ rest) = "this_value" :: boundNames rest := rfl
  have second (rest : List Token) :
      boundNames (code "let mut this:" ++ rest) = "this" :: boundNames rest := rfl
  have null : Quiet (nullCheckTokens rt) := by simp +decide [nullCheckTokens, path]
  have free : Quiet (freeTokens read.free) := by cases read.free <;> decide
  cases use : read.use with
  | borrowed type reference =>
      simp (disch := first | assumption | decide) only [SelfRead.tokens, use, braces,
        List.append_assoc, first, boundNames_load path, boundNames_append, SelfRead.localNames]
      rfl
  | converted form =>
      rw [use] at quiet
      have type := quiet_typeTokens path quiet
      have taken := quiet_takeTokens path quiet (by decide : Quiet (code "this_value"))
      simp (disch := first | assumption | decide) only [SelfRead.tokens, use, braces,
        List.append_assoc, first, second, boundNames_load path, boundNames_append,
        SelfRead.localNames]
      rfl

theorem boundNames_reads {reads : List Read}
    (each : ∀ read ∈ reads, read.variableName ∉ ["fn", "let", "mut"] ∧ Quiet read.form.spelled)
    (rest : List Token) :
    boundNames (reads.flatMap (Read.tokens rt) ++ rest) =
      reads.flatMap (fun read => [read.variableName, "at", "location", "value"]) ++
        boundNames rest := by
  induction reads with
  | nil => rfl
  | cons read reads ih =>
      obtain ⟨⟨plain, quiet⟩, others⟩ := List.forall_mem_cons.mp each
      rw [List.flatMap_cons, List.append_assoc, boundNames_read path plain quiet, ih others]
      rfl

end Reads

/-! ## Calls -/

def closureNames : Option SelfRead → List String
  | some { use := .borrowed _ _, .. } => ["this"]
  | _ => []

theorem quiet_bodyTokens {call : Call} (quiet : Quiet call.tokens) (hasResult : Bool) :
    Quiet (call.bodyTokens hasResult) := by
  cases hasResult <;> simp +decide [Call.bodyTokens, quiet]

theorem quiet_closureTokens {call : Call} (quiet : Quiet call.tokens) (hasResult : Bool) :
    Quiet (call.closureTokens hasResult) := by
  cases call with
  | setEntry => exact quiet
  | _ => exact quiet_bodyTokens quiet hasResult

section Calls

variable {rt : List Token} (path : Quiet rt)
include path

theorem boundNames_guarded {receiver : Option SelfRead} {call : Call}
    (used : ∀ read, receiver = some read → Quiet read.use.spelled) (quiet : Quiet call.tokens)
    (hasResult : Bool) (rest : List Token) :
    boundNames (guardedTokens rt receiver call hasResult ++ rest) =
      closureNames receiver ++ boundNames rest := by
  have body := quiet_bodyTokens quiet hasResult
  have closure := quiet_closureTokens quiet hasResult
  have plain : Quiet (code "Ok" ++ parens (call.bodyTokens hasResult)) := by simp +decide [body]
  rcases receiver with _ | ⟨offset, kind, coercion, resolve, free, form | ⟨type, reference⟩⟩
  · exact boundNames_append plain rest
  · exact boundNames_append plain rest
  · have spelled : Quiet type.tokens := used _ rfl
    have opened (rest : List Token) : boundNames (code "|this|" ++
        (call.closureTokens hasResult ++ ([.mark ")"] ++ rest))) = "this" :: boundNames rest := by
      show ["this"] ++ (closureParameter (_ ++ .mark ")" :: rest) ++
        boundNames (call.closureTokens hasResult ++ ([.mark ")"] ++ rest))) = _
      rw [closureParameter_append closure (by decide), List.nil_append, boundNames_append closure]
      rfl
    have literal := quiet_literal reference
    simp (disch := first | assumption | decide) only [guardedTokens, parens, commaSeparated,
      List.append_assoc, opened, boundNames_append]
    rfl

theorem closureParameter_guarded (receiver : Option SelfRead) (call : Call) (hasResult : Bool)
    (rest : List Token) :
    closureParameter (guardedTokens rt receiver call hasResult ++ rest) = [] := by
  rcases receiver with _ | ⟨offset, kind, coercion, resolve, free, form | ⟨type, reference⟩⟩
  · rfl
  · rfl
  · simp only [guardedTokens, List.append_assoc]
    exact closureParameter_append path (by decide) _

end Calls

/-! ## Writes and the result -/

section Writes

variable {rt : List Token} (path : Quiet rt)
include path

theorem boundNames_writes {writes : List Write}
    (each : ∀ write ∈ writes, Quiet [.word write.variableName]) (rest : List Token) :
    boundNames (writes.flatMap (Write.tokens rt) ++ rest) =
      writes.map (fun _ => "location") ++ boundNames rest := by
  have target (rest : List Token) :
      boundNames (code "let location = ctx.resolve_reference" ++ rest) =
        "location" :: boundNames rest := rfl
  induction writes with
  | nil => rfl
  | cons write writes ih =>
      obtain ⟨written, others⟩ := List.forall_mem_cons.mp each
      have place : Quiet
          (parens (code "esp.minus" ++ (parens (sizeNumber write.offset) ++ code "?"))) := by
        simp +decide
      have kind := quiet_kindTokens path write.kind
      have given : Quiet (write.form.giveTokens rt [.word write.variableName]) :=
        quiet_giveTokens path written
      have stored : Quiet (parens (commaSeparated
          [code "location", kindTokens rt write.kind,
            write.form.giveTokens rt [.word write.variableName]])) := by
        simp +decide [kind, given]
      simp (disch := first | assumption | decide) only [List.flatMap_cons, Write.tokens,
        List.append_assoc, target, boundNames_append, ih others, List.map_cons, List.cons_append]

theorem quiet_finishTokens (form : Option NativeForm) (ret : ReturnStep) :
    Quiet (finishTokens rt form ret) := by
  have result : Quiet ((form.getD .unit).giveTokens rt (code "result")) :=
    quiet_giveTokens path (by decide)
  cases ret with
  | void => exact (by decide : Quiet (code "Ok(ret)"))
  | value kind => simp +decide [finishTokens, quiet_kindTokens path, result]
  | object unwrapAdapter => cases unwrapAdapter <;> simp +decide [finishTokens, result]

end Writes

/-! ## Whole stubs -/

/-- Nothing that a stub spells by itself binds a name, apart from its parameters. -/
structure QuietStub (stub : Stub) : Prop where
  name : Quiet [stub.name.token]
  reads : ∀ read ∈ stub.reads, read.variableName ∉ ["fn", "let", "mut"] ∧ Quiet read.form.spelled
  receiver : ∀ read, stub.receiver = some read → Quiet read.use.spelled
  call : Quiet stub.call.tokens
  result : ∀ form, stub.result = some form → Quiet form.spelled
  writes : ∀ write ∈ stub.writes, Quiet [.word write.variableName]

section Stubs

variable {rt : List Token} (path : Quiet rt) {stub : Stub} (quiet : QuietStub stub)
include path quiet

theorem boundNames_body (rest : List Token) :
    boundNames (stub.bodyTokens rt ++ rest) =
      "ret" :: (stub.reads.flatMap (fun read => [read.variableName, "at", "location", "value"]) ++
        ((stub.receiver.map SelfRead.localNames).getD [] ++
          ((if stub.result.isSome then ["result"] else []) ++ (closureNames stub.receiver ++
            (stub.writes.map (fun _ => "location") ++ boundNames rest))))) := by
  have first (rest : List Token) :
      boundNames (code "let ret = esp.minus" ++ rest) = "ret" :: boundNames rest := rfl
  have received (rest : List Token) :
      boundNames ((stub.receiver.map (SelfRead.tokens rt)).getD [] ++ rest) =
        (stub.receiver.map SelfRead.localNames).getD [] ++ boundNames rest := by
    cases self : stub.receiver with
    | none => rfl
    | some read => exact boundNames_self path (quiet.receiver read self) rest
  have guarded (rest : List Token) :
      boundNames (code "| |" ++
          (guardedTokens rt stub.receiver stub.call stub.result.isSome ++ rest)) =
        closureNames stub.receiver ++ boundNames rest := by
    show closureParameter (_ ++ rest) ++ boundNames (_ ++ rest) = _
    rw [closureParameter_guarded path, boundNames_guarded path quiet.receiver quiet.call]
    rfl
  have finish := quiet_finishTokens path stub.result stub.ret
  have window := quiet_sizeNumber stub.window
  have reads := boundNames_reads path quiet.reads
  have writes := boundNames_writes path quiet.writes
  cases result : stub.result with
  | none =>
      rw [result] at finish guarded
      simp (disch := first | assumption | decide) only [Stub.bodyTokens, result, parens,
        commaSeparated, List.append_assoc, first, received, reads, guarded, writes,
        boundNames_append]
      rfl
  | some form =>
      have type := quiet_typeTokens path (quiet.result form result)
      have declared (rest : List Token) :
          boundNames (code "let result:" ++ rest) = "result" :: boundNames rest := rfl
      rw [result] at finish guarded
      simp (disch := first | assumption | decide) only [Stub.bodyTokens, result, parens,
        commaSeparated, List.append_assoc, first, received, reads, declared, guarded, writes,
        boundNames_append]
      rfl

theorem boundNames_stub :
    boundNames (stub.tokens rt) =
      ["ctx", "esp", "method", "ret"] ++
        stub.reads.flatMap (fun read => [read.variableName, "at", "location", "value"]) ++
        (stub.receiver.map SelfRead.localNames).getD [] ++
        (if stub.result.isSome then ["result"] else []) ++ closureNames stub.receiver ++
        stub.writes.map fun _ => "location" := by
  have ctx (rest : List Token) :
      parameterNames (code "ctx: &mut" ++ (rt ++ (code "::CallContext<'_>" ++
        ([.mark ","] ++ rest)))) = "ctx" :: parameterNames rest := by
    have front : Quiet ([.mark "&", .word "mut"] ++ rt) := quiet_append.mpr ⟨by decide, path⟩
    exact congrArg ("ctx" :: ·) (parameterNames_append front (by decide) _)
  have esp (rest : List Token) :
      parameterNames (code "esp:" ++ (rt ++ (code "::StackPtr" ++ ([.mark ","] ++ rest)))) =
        "esp" :: parameterNames rest :=
    congrArg ("esp" :: ·) (parameterNames_append path (by decide) _)
  have method (rest : List Token) :
      parameterNames (code "method: &" ++ (rt ++ (code "::MethodSignature" ++
        ([.mark ")"] ++ (code "->" ++ rest))))) = ["method"] := by
    have front : Quiet ([.mark "&"] ++ rt) := quiet_append.mpr ⟨by decide, path⟩
    exact congrArg ("method" :: ·) (parameterNames_append front (by decide) _)
  have opened (rest : List Token) :
      parameterNames ([stub.name.token] ++ ([.mark "("] ++ rest)) = parameterNames rest :=
    parameterNames_append quiet.name (by decide) rest
  have parameters (rest : List Token) :
      parameterNames ([stub.name.token] ++ (Stub.parameterTokens rt ++ (code "->" ++ rest))) =
        ["ctx", "esp", "method"] := by
    simp only [Stub.parameterTokens, parens, commaSeparated, List.append_assoc, opened, ctx, esp,
      method]
  have skipped (rest : List Token) :
      boundNames ([stub.name.token] ++ (Stub.parameterTokens rt ++ (code "->" ++ rest))) =
        boundNames rest := by
    have name := quiet.name
    have first (rest : List Token) :
        boundNames (code "ctx: &mut" ++ rest) = boundNames rest := rfl
    have second (rest : List Token) : boundNames (code "esp:" ++ rest) = boundNames rest := rfl
    have third (rest : List Token) :
        boundNames (code "method: &" ++ rest) = boundNames rest := rfl
    have arrow (rest : List Token) : boundNames (code "->" ++ rest) = boundNames rest := rfl
    simp (disch := first | assumption | decide) only [Stub.parameterTokens, parens, commaSeparated,
      List.append_assoc, boundNames_append, first, second, third, arrow]
  have function (rest : List Token) :
      boundNames (code "fn" ++
          ([stub.name.token] ++ (Stub.parameterTokens rt ++ (code "->" ++ rest)))) =
        ["ctx", "esp", "method"] ++ boundNames rest := by
    have keyword (rest : List Token) :
        boundNames (code "fn" ++ rest) = parameterNames rest ++ boundNames rest := rfl
    rw [keyword, parameters, skipped]
  have closing : boundNames [.mark "\x7d"] = [] := rfl
  simp (disch := first | assumption | decide) only [Stub.tokens, braces, List.append_assoc,
    function, boundNames_append, boundNames_body path quiet, closing, List.append_nil]
  rfl

end Stubs

/-! ## Stubs of plans -/

theorem quiet_ofName {name : String} {ident : Ident} (named : Ident.ofName name = .ok ident) :
    Quiet [ident.token] := by
  have single {text : String} (read : Ident.ofText? text = some ident) : Quiet [ident.token] := by
    rw [Ident.ofText?] at read
    split at read
    · rename_i token _
      cases token with
      | word word =>
          rw [Ident.ofToken?] at read
          split at read
          · cases read
          · rename_i listed
            cases read
            refine quiet_word.mpr fun member => listed (.inr ?_)
            exact (by decide : ∀ word ∈ ["fn", "let"], word ∈ keywords) word member
      | rawWord word =>
          cases read
          exact quiet_cons.mpr ⟨by simp [Ident.token, bindingTokens], quiet_nil⟩
      | _ => cases read
    · cases read
  rw [Ident.ofName] at named
  split at named
  · cases named
    exact single ‹_›
  · split at named
    · cases named
      exact single ‹_›
    · cases named

theorem variableName_plain (step : ParamStep) : variableName step ∉ ["fn", "let", "mut"] :=
  trampolineIdent_not_mem step.name step.index (by decide)

theorem quiet_variableName (step : ParamStep) : Quiet [.word (variableName step)] :=
  quiet_word.mpr (trampolineIdent_not_mem step.name step.index (by decide))

theorem quiet_form {type : TypeRef} {form : NativeForm} (made : NativeForm.ofType type = .ok form) :
    Quiet form.spelled := by
  rw [NativeForm.ofType] at made
  split at made
  · cases made
    exact quiet_nil
  · split at made
    · cases made
      exact quiet_nil
    · cases made
  · cases made
    exact quiet_nil
  · obtain ⟨code, spelled, same⟩ := bind_eq_ok.mp made
    obtain rfl := pure_eq_ok.mp same
    exact quiet_ofReference spelled
  all_goals
    cases made
    exact quiet_nil

theorem quiet_owner {plan : Plan} {owner : Option CodeType} (owned : Call.owner? plan = .ok owner) :
    ∀ type, owner = some type → Quiet type.tokens := by
  rintro type rfl
  rw [Call.owner?] at owned
  split at owned
  · obtain ⟨type, spelled, same⟩ := map_eq_ok.mp owned
    cases same
    exact quiet_ofReference spelled
  · cases pure_eq_ok.mp owned

theorem quiet_named {owner : Option CodeType} (spelled : ∀ type, owner = some type →
    Quiet type.tokens) {method : Ident} (named : Quiet [method.token]) {args : List Argument}
    (given : ∀ arg ∈ args, Quiet [.word arg.variableName]) :
    Quiet (Call.named owner method args).tokens := by
  have arguments : Quiet (argumentTokens args) := by
    rw [argumentTokens, quiet_parens, quiet_commaSeparated, List.forall_mem_map]
    intro arg member
    have name := given arg member
    cases arg.byRef <;> simp +decide only [quiet_append, name, if_true, if_false]
  cases owner with
  | none => simp +decide only [Call.named, Call.tokens, quiet_append, named, arguments]
  | some type =>
      have type := spelled type rfl
      simp +decide only [Call.named, Call.tokens, quiet_append, named, arguments, type]

theorem quiet_call {plan : Plan} {owner : Option CodeType} {call : Call}
    (spelled : ∀ type, owner = some type → Quiet type.tokens)
    (made : Call.ofDispatch plan owner = .ok call) : Quiet call.tokens := by
  have arguments : ∀ arg ∈ plan.paramsInOrder.map fun step =>
      ({ variableName := variableName step, byRef := step.byRef } : Argument),
      Quiet [.word arg.variableName] := by
    rw [List.forall_mem_map]
    exact fun step _ => quiet_variableName step
  have operand (index : Nat) :
      Quiet [.word ((plan.paramsInOrder[index]?.map variableName).getD "")] := by
    cases plan.paramsInOrder[index]? with
    | none => exact (by decide : Quiet [.word ""])
    | some step => exact quiet_variableName step
  rw [Call.ofDispatch] at made
  split at made
  iterate 2
    · obtain ⟨method, named, same⟩ := bind_eq_ok.mp made
      obtain rfl := pure_eq_ok.mp same
      exact quiet_named spelled (quiet_ofName named) arguments
  · obtain ⟨property, named, same⟩ := bind_eq_ok.mp made
    obtain rfl := pure_eq_ok.mp same
    exact quiet_named spelled (quiet_ofName named) (List.forall_mem_nil _)
  · obtain ⟨property, named, same⟩ := bind_eq_ok.mp made
    obtain rfl := pure_eq_ok.mp same
    exact quiet_named spelled (quiet_ofName named) arguments
  · split at made
    · cases made
    · cases made
      have key := operand 0
      simp +decide only [Call.tokens, quiet_append, quiet_brackets, key]
  · split at made
    · cases made
    · cases made
      have key := operand 0
      have value := operand 1
      simp +decide only [Call.tokens, quiet_append, quiet_brackets, key, value]
  · cases made
    have only := operand 0
    simp +decide only [Call.tokens, quiet_append, quiet_parens, only]
  · rename_i op _ _
    cases made
    have left := operand 0
    have right := operand 1
    have symbol : Quiet (code op.symbol) := by cases op <;> decide
    simp +decide only [Call.tokens, quiet_append, quiet_parens, left, right, symbol]

theorem quiet_read {step : ParamStep} {read : Read} (made : Read.ofStep step = .ok read) :
    read.variableName = variableName step ∧ Quiet read.form.spelled := by
  obtain ⟨form, spelled, same⟩ := bind_eq_ok.mp made
  obtain rfl := pure_eq_ok.mp same
  exact ⟨rfl, quiet_form spelled⟩

theorem quiet_use {plan : Plan} {type : TypeRef} {use : ReceiverUse}
    (made : SelfRead.useOf plan type = .ok use) : Quiet use.spelled := by
  rw [SelfRead.useOf] at made
  split at made
  iterate 2
    · obtain ⟨code, spelled, same⟩ := bind_eq_ok.mp made
      obtain rfl := pure_eq_ok.mp same
      exact quiet_ofReference spelled
  · cases made
  · obtain ⟨form, spelled, rfl⟩ := map_eq_ok.mp made
    exact quiet_form spelled

theorem quiet_selfRead {plan : Plan} {read : SelfRead} (made : selfRead plan = .ok (some read)) :
    Quiet read.use.spelled := by
  rw [selfRead] at made
  cases received : plan.receiver with
  | none =>
      rw [received] at made
      cases pure_eq_ok.mp made
  | some step =>
      rw [received] at made
      obtain ⟨other, same, whole⟩ := map_eq_ok.mp made
      obtain ⟨use, used, same⟩ := bind_eq_ok.mp same
      obtain rfl := pure_eq_ok.mp same
      cases whole
      exact quiet_use used

theorem quiet_write {plan : Plan} {step : WriteBack} {write : Write}
    (made : Write.ofStep plan step = .ok write) : Quiet [.word write.variableName] := by
  rw [Write.ofStep] at made
  split at made
  · obtain ⟨form, -, same⟩ := bind_eq_ok.mp made
    obtain rfl := pure_eq_ok.mp same
    exact quiet_variableName _
  · cases made

theorem quietStub_of_plan {plan : Plan} {stub : Stub} (made : Stub.ofPlan plan = .ok stub) :
    QuietStub stub ∧ stub.reads.map (·.variableName) = plan.params.map variableName := by
  rw [Stub.ofPlan_eq] at made
  simp only [bind_eq_ok, pure_eq_ok, mapM_eq_ok] at made
  obtain ⟨name, named, reads, read, -, -, owner, owned, call, called, receiver, received, result,
    returned, writes, wrote, rfl⟩ := made
  have names : reads.map (·.variableName) = plan.params.map variableName := by
    rw [← List.forall₂_eq_eq_eq, List.forall₂_map_left_iff, List.forall₂_map_right_iff]
    exact read.flip.imp fun _ _ made => (quiet_read made).1
  refine ⟨⟨quiet_ofName named, ?_, ?_, quiet_call (quiet_owner owned) called, ?_, ?_⟩, names⟩
  · intro taken member
    obtain ⟨step, -, made⟩ := forall₂_mem read member
    obtain ⟨same, quiet⟩ := quiet_read made
    exact ⟨same ▸ variableName_plain step, quiet⟩
  · rintro self rfl
    exact quiet_selfRead received
  · rintro form rfl
    rw [resultForm] at returned
    split at returned
    · cases returned
    · obtain ⟨form, spelled, same⟩ := map_eq_ok.mp returned
      cases same
      exact quiet_form spelled
  · intro write member
    obtain ⟨step, -, made⟩ := forall₂_mem wrote member
    exact quiet_write made

/-! ## Kinds of names -/

def localNames : List String :=
  ["ctx", "esp", "method", "ret", "at", "location", "value", "this", "this_value", "result"]

theorem SelfRead.localNames_subset (read : SelfRead) : read.localNames ⊆ Source.localNames := by
  obtain ⟨offset, kind, coercion, resolve, free, form | ⟨type, reference⟩⟩ := read
  · exact (by decide : ["this_value", "at", "location", "value", "this"] ⊆ Source.localNames)
  · exact (by decide : ["this_value", "at", "location", "value"] ⊆ Source.localNames)

theorem closureNames_subset (receiver : Option SelfRead) :
    closureNames receiver ⊆ localNames := by
  rcases receiver with _ | ⟨offset, kind, coercion, resolve, free, form | ⟨type, reference⟩⟩
  · exact List.nil_subset _
  · exact List.nil_subset _
  · exact (by decide : ["this"] ⊆ localNames)

theorem mem_boundNames {options : Options} {rt : List Token} (path : runtimePath options = .ok rt)
    {plan : Plan} {stub : Stub} (made : Stub.ofPlan plan = .ok stub) {name : String}
    (bound : name ∈ boundNames (stub.tokens rt)) :
    name ∈ localNames ∨ ∃ step ∈ plan.params, name = variableName step := by
  obtain ⟨quiet, names⟩ := quietStub_of_plan made
  rw [boundNames_stub (quiet_runtimePath path) quiet] at bound
  simp only [List.mem_append] at bound
  rcases bound with ((((parameter | taken) | self) | result) | closure) | write
  · exact .inl ((by decide : ["ctx", "esp", "method", "ret"] ⊆ localNames) parameter)
  · obtain ⟨read, listed, member⟩ := List.mem_flatMap.mp taken
    rcases List.mem_cons.mp member with rfl | other
    · have taken : read.variableName ∈ plan.params.map variableName :=
        names ▸ List.mem_map_of_mem listed
      obtain ⟨step, member, same⟩ := List.mem_map.mp taken
      exact .inr ⟨step, member, same.symm⟩
    · exact .inl ((by decide : ["at", "location", "value"] ⊆ localNames) other)
  · cases received : stub.receiver with
    | none =>
        rw [received] at self
        cases self
    | some read =>
        rw [received] at self
        exact .inl (read.localNames_subset self)
  · split at result
    · exact .inl ((by decide : ["result"] ⊆ localNames) result)
    · cases result
  · exact .inl (closureNames_subset _ closure)
  · obtain ⟨write, -, rfl⟩ := List.mem_map.mp write
    exact .inl (by decide)

end NativeBridge.Source
