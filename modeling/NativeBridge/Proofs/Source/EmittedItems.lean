import Mathlib.Algebra.BigOperators.Group.List.Basic
import NativeBridge.Proofs.Source.RuntimePaths

/-!
# Items of emitted files

The items of emitted files are read back without regard to what they were made from: the functions
that a file defines, the registrations of a module, and the modules that an aggregate declares and
initializes.

* `functionNames_module`, `registerCalls_module`: what is read from the file of a module.
* `functionNames_aggregate`, `declaredModules_aggregate`, `initializedModules_aggregate`: what is
  read from the file of an aggregate.
-/

namespace NativeBridge.Source

/-! ## Functions -/

def functionName? : List Token → Option Token
  | .mark "#" :: .mark "[" :: .word "doc" :: .mark "=" :: .literal _ :: .mark "]" :: rest =>
      functionName? rest
  | .word "pub" :: rest => functionName? rest
  | .word "fn" :: name :: _ => some name
  | _ => none

def functionNames (items : List (List Token)) : List Token := items.filterMap functionName?

theorem functionName?_docs (docs : List String) (rest : List Token) :
    functionName? (docs.flatMap docTokens ++ rest) = functionName? rest := by
  induction docs with
  | nil => rfl
  | cons doc docs ih => exact ih

theorem functionName?_registryFunction (rt : List Token) (docs : List String) (name : String)
    (result body : List Token) :
    functionName? (registryFunction rt docs name result body) = some (.word name) := by
  simp only [registryFunction, List.append_assoc, functionName?_docs]
  rfl

theorem functionName?_stub (rt : List Token) (stub : Stub) :
    functionName? (stub.tokens rt) = some stub.name.token := by
  simp only [Stub.tokens, List.append_assoc]
  rfl

theorem functionNames_module (file : ModuleFile) :
    functionNames file.codeFile.body =
      file.stubs.map (·.name.token) ++ [.word "register"] := by
  have stubs : (file.stubs.map (Stub.tokens file.runtime)).filterMap functionName? =
      file.stubs.map (·.name.token) := by
    rw [List.filterMap_map]
    exact List.filterMap_eq_map_iff_forall_eq_some.mpr fun stub _ =>
      functionName?_stub file.runtime stub
  have attributes : file.attributes.filterMap functionName? = [] := rfl
  simp only [functionNames, ModuleFile.codeFile, ModuleFile.functions, List.filterMap_append,
    attributes, stubs, List.nil_append]
  rw [List.filterMap_cons_some (functionName?_registryFunction ..), List.filterMap_nil]

/-! ## Registrations -/

def readKey? (rt tokens : List Token) : Option (ParamKey × List Token) :=
  match tokens.dropPrefix? (rt ++ code "::ParamKey::by_ref") with
  | some (.mark "(" :: .literal typeName :: .mark ")" :: rest) => some (⟨typeName, true⟩, rest)
  | _ =>
      match tokens.dropPrefix? (rt ++ code "::ParamKey::value") with
      | some (.mark "(" :: .literal typeName :: .mark ")" :: rest) => some (⟨typeName, false⟩, rest)
      | _ => none

def readKeys? (rt : List Token) : Nat → List Token → Option (List ParamKey × List Token)
  | 0, _ => none
  | _ + 1, .mark "]" :: rest => some ([], rest)
  | fuel + 1, tokens =>
      match readKey? rt tokens with
      | some (key, .mark "," :: rest) =>
          (readKeys? rt fuel rest).map fun (keys, rest) => (key :: keys, rest)
      | some (key, .mark "]" :: rest) => some ([key], rest)
      | _ => none

def readCall? (rt tokens : List Token) : Option ((Signature × Token) × List Token) := do
  let rest ← tokens.dropPrefix?
    (code "registry.register" ++ [.mark "("] ++ rt ++ code "::MethodSignature::new")
  match rest with
  | .mark "(" :: .literal declaring :: .mark "," :: .literal name :: .mark "," :: rest =>
      let rest ← rest.dropPrefix? (code "vec!" ++ [.mark "["])
      let (params, rest) ← readKeys? rt rest.length rest
      let rest ← rest.dropPrefix? ([.mark ")", .mark ","] ++ code "std::sync::Arc::new")
      match rest with
      | .mark "(" :: function :: .mark ")" :: .mark ")" :: .mark ";" :: rest =>
          some ((⟨declaring, name, params⟩, function), rest)
      | _ => none
  | _ => none

def readCalls? (rt : List Token) : Nat → List Token → Option (List (Signature × Token))
  | 0, _ => none
  | _ + 1, [.mark "\x7d"] => some []
  | fuel + 1, tokens => do
      let (call, rest) ← readCall? rt tokens
      let calls ← readCalls? rt fuel rest
      some (call :: calls)

def registeredBy? (rt item : List Token) : Option (List (Signature × Token)) := do
  let body ← item.dropPrefix?
    (docTokens " Register every trampoline of this module" ++ code "pub fn" ++
      [.word "register", .mark "("] ++ code "registry: &mut" ++ rt ++ code "::MethodRegistry" ++
      [.mark ")", .mark "\x7b"])
  readCalls? rt body.length body

def registerCalls (rt : List Token) (items : List (List Token)) : List (Signature × Token) :=
  items.flatMap fun item => (registeredBy? rt item).getD []

theorem dropPrefix?_append_append (tokens others phrase : List Token) :
    (tokens ++ others).dropPrefix? (tokens ++ phrase) = others.dropPrefix? phrase := by
  induction tokens with
  | nil => rfl
  | cons token rest ih => simpa [List.dropPrefix?] using ih

theorem dropPrefix?_cons_cons (token : Token) (others phrase : List Token) :
    (token :: others).dropPrefix? (token :: phrase) = others.dropPrefix? phrase :=
  dropPrefix?_append_append [token] others phrase

theorem dropPrefix?_append (phrase rest : List Token) :
    (phrase ++ rest).dropPrefix? phrase = some rest :=
  List.dropPrefix?_append_of_beq rest (beq_self_eq_true phrase)

def keyTokens (rt : List Token) (key : ParamKey) : List Token :=
  rt ++ code (if key.byRef then "::ParamKey::by_ref" else "::ParamKey::value") ++
    parens [.literal key.typeName]

theorem readKey?_keyTokens (rt : List Token) (key : ParamKey) (rest : List Token) :
    readKey? rt (keyTokens rt key ++ rest) = some (key, rest) := by
  obtain ⟨typeName, byRef⟩ := key
  have reference : code "::ParamKey::by_ref" =
      [.mark "::", .word "ParamKey", .mark "::", .word "by_ref"] := rfl
  have value : code "::ParamKey::value" =
      [.mark "::", .word "ParamKey", .mark "::", .word "value"] := rfl
  simp only [readKey?, keyTokens, List.append_assoc, dropPrefix?_append_append, reference, value]
  cases byRef with
  | true => simp [List.dropPrefix?, parens, reference]
  | false => simp [List.dropPrefix?, parens, value]

theorem length_le_commaSeparated (elements : List (List Token)) :
    elements.length ≤ (commaSeparated elements).length + 1 := by
  induction elements with
  | nil => simp
  | cons element rest ih =>
      cases rest with
      | nil => simp
      | cons other rest =>
          simp only [commaSeparated, List.length_append, List.length_cons] at ih ⊢
          omega

theorem readKeys?_keyTokens {rt : List Token} {name : Token} {more : List Token}
    (begins : rt = name :: more) (isName : name.IsName) {keys : List ParamKey} {fuel : Nat}
    (enough : keys.length < fuel) (rest : List Token) :
    readKeys? rt fuel (commaSeparated (keys.map (keyTokens rt)) ++ .mark "]" :: rest) =
      some (keys, rest) := by
  induction keys generalizing fuel with
  | nil =>
      obtain ⟨fuel, rfl⟩ := Nat.exists_eq_add_one.mpr enough
      rfl
  | cons key others ih =>
      obtain ⟨fuel, rfl⟩ := Nat.exists_eq_add_one.mpr (Nat.zero_lt_of_lt enough)
      have unclosed (tokens : List Token) (rest : List Token)
          (closed : keyTokens rt key ++ tokens = .mark "]" :: rest) : False := by
        subst begins
        cases closed
        cases isName
      cases others with
      | nil =>
          simp only [List.map_cons, List.map_nil, commaSeparated]
          rw [readKeys?, readKey?_keyTokens]
          · rfl
          · exact unclosed _
      | cons other others =>
          have remaining := ih (Nat.lt_of_succ_lt_succ enough)
          simp only [List.map_cons, commaSeparated, List.append_assoc] at remaining ⊢
          rw [readKeys?, readKey?_keyTokens]
          · simp only [List.cons_append, List.nil_append, remaining, Option.map_some]
          · exact unclosed _

section Calls

variable {rt : List Token} {name : Token} {more : List Token}

theorem registrationTokens_eq (rt : List Token) (stub : Stub) :
    registrationTokens rt stub =
      (code "registry.register" ++ [.mark "("] ++ rt ++ code "::MethodSignature::new") ++
        [.mark "(", .literal stub.signature.declaring, .mark ",", .literal stub.signature.name,
          .mark ","] ++ (code "vec!" ++ [.mark "["]) ++
        (commaSeparated (stub.signature.params.map (keyTokens rt)) ++ .mark "]" ::
          (([.mark ")", .mark ","] ++ code "std::sync::Arc::new") ++
            [.mark "(", stub.name.token, .mark ")", .mark ")", .mark ";"])) := by
  have semicolon : code ";" = [.mark ";"] := rfl
  have keys : stub.signature.params.map (keyTokens rt) = stub.signature.params.map fun param =>
      rt ++ code (if param.byRef then "::ParamKey::by_ref" else "::ParamKey::value") ++
        parens [.literal param.typeName] := rfl
  simp [registrationTokens, parens, brackets, commaSeparated, keys, semicolon]

theorem readCall?_registrationTokens (begins : rt = name :: more) (isName : name.IsName)
    (stub : Stub) (rest : List Token) :
    readCall? rt (registrationTokens rt stub ++ rest) =
      some ((stub.signature, stub.name.token), rest) := by
  have enough := length_le_commaSeparated (stub.signature.params.map (keyTokens rt))
  rw [List.length_map] at enough
  simp only [registrationTokens_eq, List.append_assoc, readCall?, dropPrefix?_append_append,
    dropPrefix?_append, dropPrefix?_cons_cons, List.dropPrefix?_nil, List.cons_append,
    List.nil_append, Option.bind_eq_bind, Option.bind_some]
  rw [readKeys?_keyTokens begins isName]
  · simp only [Option.bind_some, dropPrefix?_cons_cons, dropPrefix?_append]
  · simp only [List.length_append, List.length_cons]
    omega

theorem readCalls?_registrationTokens (begins : rt = name :: more) (isName : name.IsName)
    {stubs : List Stub} {fuel : Nat} (enough : stubs.length < fuel) :
    readCalls? rt fuel (stubs.flatMap (registrationTokens rt) ++ [.mark "\x7d"]) =
      some (stubs.map fun stub => (stub.signature, stub.name.token)) := by
  induction stubs generalizing fuel with
  | nil =>
      obtain ⟨fuel, rfl⟩ := Nat.exists_eq_add_one.mpr enough
      rfl
  | cons stub others ih =>
      obtain ⟨fuel, rfl⟩ := Nat.exists_eq_add_one.mpr (Nat.zero_lt_of_lt enough)
      have remaining := ih (Nat.lt_of_succ_lt_succ enough)
      rw [List.flatMap_cons, List.append_assoc, readCalls?,
        readCall?_registrationTokens begins isName]
      · simp only [Option.bind_eq_bind, Option.bind_some, remaining, List.map_cons]
      · intro closed
        have length := congrArg List.length closed
        rw [registrationTokens_eq] at length
        simp only [List.length_append, List.length_cons] at length
        omega

theorem registeredBy?_stub (rt : List Token) (stub : Stub) :
    registeredBy? rt (stub.tokens rt) = none := by
  simp only [registeredBy?, Stub.tokens, List.append_assoc]
  rfl

theorem registeredBy?_registryFunction (rt body : List Token) :
    registeredBy? rt
        (registryFunction rt [" Register every trampoline of this module"] "register" [] body) =
      readCalls? rt (body.length + 1) (body ++ [.mark "\x7d"]) := by
  simp only [registeredBy?, registryFunction, parens, braces, List.flatMap_cons, List.flatMap_nil,
    List.append_assoc, List.nil_append, List.cons_append, dropPrefix?_append_append,
    dropPrefix?_cons_cons, List.dropPrefix?_nil, Option.bind_eq_bind, Option.bind_some,
    List.length_append, List.length_cons, List.length_nil]

theorem length_le_registrationTokens (rt : List Token) (stubs : List Stub) :
    stubs.length ≤ (stubs.flatMap (registrationTokens rt)).length := by
  rw [List.length_flatMap, ← List.length_map fun stub => (registrationTokens rt stub).length]
  apply List.length_le_sum_of_one_le
  intro length member
  obtain ⟨stub, -, rfl⟩ := List.mem_map.mp member
  rw [registrationTokens_eq]
  simp only [List.length_append, List.length_cons]
  omega

theorem registerCalls_module {file : ModuleFile} (begins : file.runtime = name :: more)
    (isName : name.IsName) :
    registerCalls file.runtime file.codeFile.body =
      file.stubs.map fun stub => (stub.signature, stub.name.token) := by
  have attributes : registerCalls file.runtime file.attributes = [] := rfl
  have stubs : registerCalls file.runtime (file.stubs.map (Stub.tokens file.runtime)) = [] := by
    simp [registerCalls, registeredBy?_stub]
  have enough := length_le_registrationTokens file.runtime file.stubs
  simp only [registerCalls] at attributes stubs
  simp only [registerCalls, ModuleFile.codeFile, ModuleFile.functions, List.flatMap_append,
    attributes, stubs, List.nil_append, List.flatMap_cons, List.flatMap_nil, List.append_nil,
    registeredBy?_registryFunction,
    readCalls?_registrationTokens begins isName (Nat.lt_succ_of_le enough), Option.getD_some]

end Calls

/-! ## Aggregates -/

def declaredModule? : List Token → Option (String × Token)
  | [.mark "#", .mark "[", .word "path", .mark "=", .literal file, .mark "]", .word "pub",
      .word "mod", name, .mark ";"] => some (file, name)
  | _ => none

def declaredModules (items : List (List Token)) : List (String × Token) :=
  items.filterMap declaredModule?

def readInitialized? : List Token → Option (List Token)
  | [.word "Ok", .mark "(", .mark "(", .mark ")", .mark ")", .mark "\x7d"] => some []
  | name :: .mark "::" :: .word "register" :: .mark "(" :: .word "registry" :: .mark ")" ::
      .mark ";" :: rest => (readInitialized? rest).map (name :: ·)
  | _ => none

def initializedBy? (rt item : List Token) : Option (List Token) := do
  let body ← item.dropPrefix?
    (docTokens " Register every generated binding. Fails if \x60registry\x60 already" ++
      docTokens " holds bindings." ++ code "pub fn" ++ [.word "initialize", .mark "("] ++
      code "registry: &mut" ++ rt ++ code "::MethodRegistry" ++ [.mark ")"] ++ code "->" ++ rt ++
      code "::VmResult<()>" ++ [.mark "\x7b"] ++ code "registry.begin_bindings()?;")
  readInitialized? body

def initializedModules (rt : List Token) (items : List (List Token)) : List Token :=
  items.flatMap fun item => (initializedBy? rt item).getD []

theorem readInitialized?_calls (names : List Ident) :
    readInitialized? ((names.flatMap fun name => [name.token] ++ code "::register(registry);") ++
        (code "Ok(())" ++ [.mark "\x7d"])) = some (names.map (·.token)) := by
  have call : code "::register(registry);" =
      [.mark "::", .word "register", .mark "(", .word "registry", .mark ")", .mark ";"] := rfl
  have finish : code "Ok(())" = [.word "Ok", .mark "(", .mark "(", .mark ")", .mark ")"] := rfl
  rw [call, finish]
  induction names with
  | nil => rfl
  | cons name names ih =>
      simp only [List.flatMap_cons, List.cons_append, List.nil_append, List.map_cons] at ih ⊢
      rw [readInitialized?, ih, Option.map_some]

theorem initializedBy?_initializeTokens (rt : List Token) (names : List Ident) :
    initializedBy? rt (initializeTokens rt names) = some (names.map (·.token)) := by
  simp only [initializedBy?, initializeTokens, registryFunction, parens, braces,
    List.flatMap_cons, List.flatMap_nil, List.append_assoc, List.nil_append, List.cons_append,
    dropPrefix?_append_append, dropPrefix?_cons_cons, dropPrefix?_append, Option.bind_eq_bind,
    Option.bind_some]
  exact readInitialized?_calls names

theorem functionNames_aggregate (file : AggregateFile) :
    functionNames file.codeFile.body = [.word "initialize"] := by
  have declared : (file.modules.map AggregateFile.moduleTokens).filterMap functionName? = [] := by
    rw [List.filterMap_map, List.filterMap_eq_nil_iff]
    exact fun entry _ => rfl
  rw [functionNames, AggregateFile.codeFile, List.filterMap_append, declared, List.nil_append,
    initializeTokens, List.filterMap_cons_some (functionName?_registryFunction ..),
    List.filterMap_nil]

theorem declaredModules_aggregate (file : AggregateFile) :
    declaredModules file.codeFile.body =
      file.modules.map fun entry => (entry.fileIdent ++ ".rs", entry.name.token) := by
  have declared : (file.modules.map AggregateFile.moduleTokens).filterMap declaredModule? =
      file.modules.map fun entry => (entry.fileIdent ++ ".rs", entry.name.token) := by
    rw [List.filterMap_map]
    exact List.filterMap_eq_map_iff_forall_eq_some.mpr fun entry _ => rfl
  rw [declaredModules, AggregateFile.codeFile, List.filterMap_append, declared,
    List.filterMap_cons_none rfl, List.filterMap_nil, List.append_nil]

theorem initializedModules_aggregate (file : AggregateFile) :
    initializedModules file.runtime file.codeFile.body = file.modules.map (·.name.token) := by
  have declared : initializedModules file.runtime
      (file.modules.map AggregateFile.moduleTokens) = [] := by
    rw [initializedModules, List.flatMap_eq_nil_iff]
    intro item member
    obtain ⟨entry, -, rfl⟩ := List.mem_map.mp member
    rfl
  rw [initializedModules] at declared
  rw [initializedModules, AggregateFile.codeFile, List.flatMap_append, declared, List.nil_append,
    List.flatMap_cons, List.flatMap_nil, initializedBy?_initializeTokens, Option.getD_some,
    List.append_nil, List.map_map]
  rfl

end NativeBridge.Source
