import Mathlib.Data.List.Induction
import Mathlib.Data.List.Nodup
import NativeBridge.Calls.Execute
import NativeBridge.Proofs.Entries
import NativeBridge.Proofs.Results

/-!
# Runs of a registry

The table of a registry and the list of its signatures are kept side by side. After any run they say
the same: what was registered, in order, with the last registration of each signature in force.

* `Records`: a registry shows a list of registrations and nothing else. Every registration keeps it
  so (`Records.register`).
* `installPlans_eq`: what an installation registers and reports.
* `runOps_records`: the registry after any run, and what the next operation answers.
-/

namespace NativeBridge

namespace Registry

variable {τ β : Type}

/-! ## Registrations -/

/-- A registry shows what was registered, in order: the signatures by their first registration, and
for each of them the last entry. -/
structure Records (registry : Registry τ) (log : List (Signature × τ)) : Prop where
  signatures : registry.signatures = (log.map (·.1)).eraseDups
  get? : ∀ signature, registry.get? signature = log.reverse.lookup signature
  keys : registry.entries.map (·.1) = registry.signatures

theorem eraseDups_concat {α : Type} [DecidableEq α] (elements : List α) (last : α) :
    (elements ++ [last]).eraseDups =
      if last ∈ elements then elements.eraseDups else elements.eraseDups ++ [last] := by
  rw [List.eraseDups_append]
  by_cases listed : last ∈ elements
  · simp [List.removeAll, listed]
  · simp [List.removeAll, listed, List.eraseDups_cons]

theorem nodup_eraseDups {α : Type} [DecidableEq α] (elements : List α) :
    elements.eraseDups.Nodup := by
  induction elements using List.reverseRecOn with
  | nil => exact List.nodup_nil
  | append_singleton rest last ih =>
      rw [eraseDups_concat]
      split
      · exact ih
      · rename_i absent
        exact List.nodup_append.mpr ⟨ih, List.nodup_singleton last, by grind [List.mem_eraseDups]⟩

namespace Records

variable {registry : Registry τ} {log : List (Signature × τ)}

theorem empty : ({} : Registry τ).Records [] := ⟨rfl, fun _ => rfl, rfl⟩

theorem nodup (records : registry.Records log) : registry.signatures.Nodup :=
  records.signatures ▸ nodup_eraseDups _

theorem size_eq (records : registry.Records log) : registry.size = registry.signatures.length := by
  rw [← records.keys, List.length_map, size]

theorem contains_iff (records : registry.Records log) (signature : Signature) :
    registry.contains signature ↔ signature ∈ log.map (·.1) := by
  rw [contains, records.get?, isSome_lookup_iff, List.map_reverse, List.mem_reverse]

theorem register (records : registry.Records log) (signature : Signature) (entry : τ) :
    (registry.register signature entry).2.Records (log ++ [(signature, entry)]) := by
  have known := records.contains_iff signature
  have listed : signature ∈ registry.signatures ↔ signature ∈ log.map (·.1) := by
    rw [records.signatures, List.mem_eraseDups]
  constructor
  · rw [List.map_append, List.map_singleton, eraseDups_concat, ← records.signatures]
    simp only [Registry.register, Registry.signatures, known]
  · intro other
    rw [List.reverse_append, List.reverse_singleton, List.singleton_append, lookup_cons_eq_if,
      ← records.get?]
    exact lookup_insertEntry signature other entry registry.entries
  · simp only [Registry.register, map_fst_insertEntry, records.keys, listed, known]
    rfl

end Records

def registerAll (registry : Registry τ) (log : List (Signature × τ)) : Registry τ :=
  log.foldl (fun registry pair => (registry.register pair.1 pair.2).2) registry

theorem registerAll_append (registry : Registry τ) (log more : List (Signature × τ)) :
    registry.registerAll (log ++ more) = (registry.registerAll log).registerAll more :=
  List.foldl_append

theorem Records.registerAll {registry : Registry τ} {log : List (Signature × τ)}
    (records : registry.Records log) (more : List (Signature × τ)) :
    (registry.registerAll more).Records (log ++ more) := by
  induction more generalizing registry log with
  | nil => rwa [List.append_nil]
  | cons pair rest ih =>
      rw [List.append_cons]
      exact ih (records.register pair.1 pair.2)

theorem run_bind {α γ : Type} (registry : Registry τ) (action : RegistryM τ α)
    (next : α → RegistryM τ γ) :
    registry.run (action >>= next) = match registry.run action with
      | (.ok value, after) => after.run (next value)
      | (.error fault, after) => (.error fault, after) := by
  refine (run_bind_eq action next registry).trans ?_
  rw [run]
  rcases StateT.run (ExceptT.run action) registry with ⟨_ | value, after⟩ <;> rfl

theorem run_enter (registry : Registry τ) (signature : Signature) (entry : τ) :
    registry.run (enter signature entry) = (.ok (), (registry.register signature entry).2) := rfl

theorem run_forM_enter {α : Type} (registry : Registry τ) (elements : List α)
    (pair : α → Signature × τ) :
    registry.run (elements.forM fun element => enter (pair element).1 (pair element).2) =
      (.ok (), registry.registerAll (elements.map pair)) := by
  induction elements generalizing registry with
  | nil => rfl
  | cons element rest ih =>
      rw [List.forM, run_bind, run_enter]
      exact ih _

theorem run_begin (registry : Registry τ) :
    registry.run begin =
      if registry.initialized then (.error .alreadyInitialized, registry)
      else (.ok (), { registry with initialized := true }) := by
  obtain ⟨entries, order, begun⟩ := registry
  cases begun <;> rfl

theorem initialized_registerAll (registry : Registry τ) (log : List (Signature × τ)) :
    (registry.registerAll log).initialized = registry.initialized := by
  induction log generalizing registry with
  | nil => rfl
  | cons pair rest ih => exact ih _

end Registry

/-! ## Installations -/

def Generation.plans (generation : Generation) : List Plan := generation.modules.flatMap (·.plans)

theorem Generation.registrations_eq (generation : Generation) :
    generation.registrations = generation.plans.length := by
  rw [registrations, plans]
  induction generation.modules with
  | nil => rfl
  | cons self rest ih =>
      rw [List.foldr_cons, ih, List.flatMap_cons, List.length_append, BindingModule.registrations]

namespace Registry

section Installing

variable {τ β : Type} (compile : Plan → β → τ) (natives : Signature → Option β)

def boundPlans (plans : List Plan) : List (Signature × τ) :=
  plans.filterMap fun plan => (natives plan.signature).map fun body =>
    (plan.signature, compile plan body)

def unboundPlans (plans : List Plan) : List String :=
  (plans.filter fun plan => (natives plan.signature).isNone).map (·.signature.text)

theorem installPlans_eq (plans : List Plan) (report : InstallReport) (registry : Registry τ) :
    registry.run (installPlans compile natives plans report) =
      (.ok { registered := report.registered + (boundPlans compile natives plans).length
             missing := report.missing ++ unboundPlans natives plans },
        registry.registerAll (boundPlans compile natives plans)) := by
  induction plans generalizing report registry with
  | nil => simp [installPlans, boundPlans, unboundPlans, registerAll]; rfl
  | cons plan rest ih =>
      rw [installPlans]
      cases found : natives plan.signature with
      | none => simp [ih, boundPlans, unboundPlans, found]
      | some body =>
          simp [run_bind, run_enter, ih, boundPlans, unboundPlans, found, registerAll]
          omega

theorem length_boundPlans (plans : List Plan) :
    (boundPlans compile natives plans).length + (unboundPlans natives plans).length =
      plans.length := by
  induction plans with
  | nil => rfl
  | cons plan rest ih =>
      simp only [boundPlans, unboundPlans, List.length_map] at ih ⊢
      cases found : natives plan.signature <;> simp [found] <;> omega

def lastPlan? (plans : List Plan) (signature : Signature) : Option Plan :=
  plans.reverse.find? (·.signature == signature)

theorem lookup_boundPlans (plans : List Plan) (signature : Signature) :
    (boundPlans compile natives plans).reverse.lookup signature =
      (lastPlan? plans signature).bind fun plan => (natives signature).map (compile plan) := by
  rw [boundPlans, ← List.filterMap_reverse, lastPlan?]
  induction plans.reverse with
  | nil => rfl
  | cons plan rest ih =>
      rw [List.filterMap_cons]
      by_cases named : plan.signature = signature
      · rw [named]
        cases found : natives signature with
        | none => simp [ih, found]
        | some body => simp [named]
      · have other : signature ≠ plan.signature := fun same => named same.symm
        rw [List.find?_cons_of_neg (by simpa using named), ← ih]
        cases found : natives plan.signature with
        | none => rfl
        | some body => exact (lookup_cons_eq_if _ _ _ _).trans (if_neg other)

theorem get?_registerAll (registry : Registry τ) (log : List (Signature × τ))
    (signature : Signature) :
    (registry.registerAll log).get? signature =
      (log.reverse.lookup signature).or (registry.get? signature) := by
  induction log using List.reverseRecOn with
  | nil => rfl
  | append_singleton rest last ih =>
      rw [registerAll, List.foldl_append, ← registerAll, List.reverse_append,
        List.reverse_singleton, List.singleton_append, lookup_cons_eq_if]
      refine (lookup_insertEntry last.1 signature last.2 _).trans ?_
      split
      · rfl
      · exact ih

theorem install_again {registry : Registry τ} (begun : registry.initialized = true)
    (generation : Generation) :
    registry.run (install compile natives generation) = (.error .alreadyInitialized, registry) := by
  rw [install, run_bind, run_begin, if_pos begun]

theorem install_first {registry : Registry τ} (unbegun : registry.initialized = false)
    (generation : Generation) :
    registry.run (install compile natives generation) =
      (.ok { registered := (boundPlans compile natives generation.plans).length
             missing := unboundPlans natives generation.plans },
        ({ registry with initialized := true } : Registry τ).registerAll
          (boundPlans compile natives generation.plans)) := by
  rw [install, run_bind, run_begin, if_neg (by simp [unbegun])]
  refine (installPlans_eq compile natives generation.plans {} _).trans ?_
  simp only [Nat.zero_add, List.nil_append]

/-- What an installation does to a registry, and what it reports. -/
structure Installed (generation : Generation) (before : Registry τ) (report : InstallReport)
    (after : Registry τ) : Prop where
  bound : ∀ {signature plan body}, lastPlan? generation.plans signature = some plan →
    natives signature = some body → after.get? signature = some (compile plan body)
  kept : ∀ {signature}, lastPlan? generation.plans signature = none ∨ natives signature = none →
    after.get? signature = before.get? signature
  total : report.registered + report.missing.length = generation.registrations
  missing : report.missing = unboundPlans natives generation.plans

theorem installed_first {registry : Registry τ} (unbegun : registry.initialized = false)
    (generation : Generation) :
    ∃ report after, registry.run (install compile natives generation) = (.ok report, after) ∧
      Installed compile natives generation registry report after := by
  refine ⟨_, _, install_first compile natives unbegun generation, ?_, ?_, ?_, rfl⟩
  · intro signature plan body last found
    rw [get?_registerAll, lookup_boundPlans, last, found]
    rfl
  · intro signature untouched
    rw [get?_registerAll, lookup_boundPlans]
    rcases untouched with none | none <;> simp [none] <;> rfl
  · rw [length_boundPlans, Generation.registrations_eq]

end Installing

/-! ## Whole runs -/

inductive RegistryOp (τ β : Type) where
  | register (signature : Signature) (entry : τ)
  | beginBindings
  | install (natives : Signature → Option β) (generation : Generation)

def RegistryOp.begins {τ β : Type} : RegistryOp τ β → Bool
  | .register _ _ => false
  | .beginBindings | .install _ _ => true

section Running

variable {τ β : Type} (compile : Plan → β → τ)

def RegistryOp.action : RegistryOp τ β → RegistryM τ Unit
  | .register signature entry => enter signature entry
  | .beginBindings => begin
  | .install natives generation => do
      let _ ← Registry.install compile natives generation

def applyOp (registry : Registry τ) (op : RegistryOp τ β) : Except Fault Unit × Registry τ :=
  registry.run (op.action compile)

def runOps (ops : List (RegistryOp τ β)) : Registry τ :=
  ops.foldl (fun registry op => (applyOp compile registry op).2) {}

def madeBy (begun : Bool) : RegistryOp τ β → List (Signature × τ)
  | .register signature entry => [(signature, entry)]
  | .beginBindings => []
  | .install natives generation =>
      if begun then [] else boundPlans compile natives generation.plans

def registrations : Bool → List (RegistryOp τ β) → List (Signature × τ)
  | _, [] => []
  | begun, op :: rest => madeBy compile begun op ++ registrations (begun || op.begins) rest

theorem applyOp_again {registry : Registry τ} (begun : registry.initialized = true)
    {op : RegistryOp τ β} (begins : op.begins = true) :
    applyOp compile registry op = (.error .alreadyInitialized, registry) := by
  cases op with
  | register signature entry => cases begins
  | beginBindings => rw [applyOp, RegistryOp.action, run_begin, if_pos begun]
  | install natives generation =>
      rw [applyOp, RegistryOp.action, run_bind, install_again compile natives begun]

theorem Records.begin {registry : Registry τ} {log : List (Signature × τ)}
    (records : registry.Records log) :
    ({ registry with initialized := true } : Registry τ).Records log :=
  ⟨records.signatures, records.get?, records.keys⟩

theorem Records.applyOp {registry : Registry τ} {log : List (Signature × τ)}
    (records : registry.Records log) (op : RegistryOp τ β) :
    (applyOp compile registry op).2.Records (log ++ madeBy compile registry.initialized op) ∧
      (applyOp compile registry op).2.initialized = (registry.initialized || op.begins) := by
  cases begun : registry.initialized with
  | true =>
      cases op with
      | register signature entry => exact ⟨records.register signature entry, begun⟩
      | beginBindings =>
          rw [applyOp_again compile begun rfl]
          exact ⟨(List.append_nil log).symm ▸ records, begun⟩
      | install natives generation =>
          rw [applyOp_again compile begun rfl]
          exact ⟨(List.append_nil log).symm ▸ records, begun⟩
  | false =>
      cases op with
      | register signature entry => exact ⟨records.register signature entry, begun⟩
      | beginBindings =>
          rw [Registry.applyOp, RegistryOp.action, run_begin, if_neg (by simp [begun])]
          exact ⟨(List.append_nil log).symm ▸ records.begin, rfl⟩
      | install natives generation =>
          rw [Registry.applyOp, RegistryOp.action, run_bind,
            install_first compile natives begun]
          exact ⟨records.begin.registerAll _, initialized_registerAll _ _⟩

theorem Records.foldl {registry : Registry τ} {log : List (Signature × τ)}
    (records : registry.Records log) (ops : List (RegistryOp τ β)) :
    (ops.foldl (fun registry op => (Registry.applyOp compile registry op).2) registry).Records
        (log ++ registrations compile registry.initialized ops) ∧
      (ops.foldl (fun registry op => (Registry.applyOp compile registry op).2)
        registry).initialized = (registry.initialized || ops.any (·.begins)) := by
  induction ops generalizing registry log with
  | nil => simpa [registrations] using records
  | cons op rest ih =>
      obtain ⟨step, begun⟩ := records.applyOp compile op
      obtain ⟨shown, begun'⟩ := ih step
      rw [begun, List.append_assoc] at shown
      rw [begun, Bool.or_assoc] at begun'
      exact ⟨shown, begun'⟩

/-- After any run, the registry shows what was registered and nothing else: every signature once, in
order of first registration, with its last entry. A registration answers whether the signature was
registered before. The first operation that begins the bindings succeeds and every later one is
refused without a trace; a first installation registers the last plan of each signature. -/
theorem runOps_records (ops : List (RegistryOp τ β)) :
    (runOps compile ops).Records (registrations compile false ops) ∧
      (runOps compile ops).signatures.Nodup ∧
      (runOps compile ops).size = (runOps compile ops).signatures.length ∧
      (∀ signature entry, ((runOps compile ops).register signature entry).1 = true ↔
        signature ∈ (registrations compile false ops).map (·.1)) ∧
      (ops.any (·.begins) = true → ∀ op : RegistryOp τ β, op.begins = true →
        applyOp compile (runOps compile ops) op =
          (.error .alreadyInitialized, runOps compile ops)) ∧
      (ops.any (·.begins) = false →
        (runOps compile ops).run begin =
            (.ok (), { runOps compile ops with initialized := true }) ∧
          ∀ natives generation, ∃ report after,
            (runOps compile ops).run (install compile natives generation) = (.ok report, after) ∧
              Installed compile natives generation (runOps compile ops) report after) := by
  obtain ⟨records, begun⟩ := Records.empty.foldl compile ops
  change (runOps compile ops).Records (registrations compile false ops) at records
  change (runOps compile ops).initialized = ops.any (·.begins) at begun
  refine ⟨records, records.nodup, records.size_eq, ?_, ?_, ?_⟩
  · intro signature entry
    exact records.contains_iff signature
  · intro again op begins
    exact applyOp_again compile (begun.trans again) begins
  · intro unbegun
    rw [unbegun] at begun
    refine ⟨?_, fun natives generation => installed_first compile natives begun generation⟩
    rw [run_begin, if_neg (by simp [begun])]

example :
    let first : Signature := ⟨"demo::M", "First", []⟩
    let second : Signature := ⟨"demo::M", "Second", []⟩
    let registry := runOps (fun (_ : Plan) (_ : Unit) => 0)
      [.register first 1, .register second 2, .beginBindings, .register first 3]
    registry.signatures = [first, second] ∧ registry.get? first = some 3 := by
  decide

end Running

end Registry

end NativeBridge
