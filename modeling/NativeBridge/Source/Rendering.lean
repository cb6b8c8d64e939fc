import NativeBridge.Source.CodeType
import NativeBridge.Source.File

/-!
# Rendering a generation

A rendering has one file for each module and one for the aggregate. A plan that has no form in code
leaves a diagnostic, and the other plans of the module go on. The fingerprint of the aggregate is
the digest of its name and of the names and fingerprints of the modules.
-/

namespace NativeBridge.Source

variable [Grammar]

structure RenderedModule where
  file : ModuleFile
  diagnostics : List Diagnostic
  deriving DecidableEq, Repr, Inhabited

structure Rendering where
  modules : List RenderedModule
  aggregate : AggregateFile
  deriving DecidableEq, Repr, Inhabited

def CodeFile.check (file : CodeFile) : Except BindingError Unit :=
  if Grammar.parses file.body.flatten then
    if Grammar.prints file.body.flatten then .ok () else .error .panic
  else .error (.render (.doesNotParse "emitted code"))

def runtimePath (options : Options) : Except BindingError (List Token) := do
  options.validate
  match pathOfText? options.runtimeCrate with
  | some path => return path
  | none => throw (.invalidOption (.runtimeCrate options.runtimeCrate))

namespace RenderedModule

def registrations (self : RenderedModule) : Nat := self.file.stubs.length

def attempts (plans : List Plan) : List (Plan × Except RenderFault Stub) :=
  plans.map fun plan => (plan, Stub.ofPlan plan)

def stubsOf (attempts : List (Plan × Except RenderFault Stub)) : List Stub :=
  attempts.filterMap fun (_, attempt) => attempt.toOption

def diagnosticsOf (reference : String) (attempts : List (Plan × Except RenderFault Stub)) :
    List Diagnostic :=
  attempts.filterMap fun (plan, attempt) =>
    match attempt with
    | .ok _ => none
    | .error fault =>
        some {
          declaring := reference
          method := plan.signature.name
          message := (BindingError.render fault).message }

def ofModule (runtime : List Token) (self : BindingModule) : RenderedModule :=
  let attempts := attempts self.plans
  { file := {
      ident := self.ident
      reference := self.reference
      fingerprint := self.fingerprint
      runtime
      stubs := stubsOf attempts }
    diagnostics := self.diagnostics ++ diagnosticsOf self.reference attempts }

/-- The module as code that has been read. -/
def emit (runtime : List Token) (self : BindingModule) : Except BindingError RenderedModule := do
  let rendered := ofModule runtime self
  rendered.file.codeFile.check
  return rendered

def render (self : BindingModule) (options : Options) : Except BindingError RenderedModule := do
  emit (← runtimePath options) self

end RenderedModule

/-! ## The aggregate -/

def aggregateSource (name : String) (modules : List RenderedModule) : String :=
  name ++ String.join (modules.map fun rendered => rendered.file.ident ++ rendered.file.fingerprint)

def aggregateFingerprint (aggregate : Aggregate) (modules : List RenderedModule) : String :=
  digest (aggregateSource aggregate.name modules)

def ModuleEntry.ofIdent (ident : String) : Except BindingError ModuleEntry := do
  let name ← (Ident.ofName ident).mapError .render
  return { name, fileIdent := ident }

namespace AggregateFile

def ofAggregate (runtime : List Token) (aggregate : Aggregate) (fingerprint : String) :
    Except BindingError AggregateFile := do
  let modules ← aggregate.modules.mapM ModuleEntry.ofIdent
  let file : AggregateFile := { name := aggregate.name, fingerprint, runtime, modules }
  file.codeFile.check
  return file

def render (aggregate : Aggregate) (modules : List RenderedModule) (options : Options) :
    Except BindingError AggregateFile := do
  ofAggregate (← runtimePath options) aggregate (aggregateFingerprint aggregate modules)

end AggregateFile

/-! ## Whole generations -/

namespace Rendering

def ofGeneration (generation : Generation) (options : Options) : Except BindingError Rendering := do
  let runtime ← runtimePath options
  let modules ← generation.modules.mapM (RenderedModule.emit runtime)
  let fingerprint := aggregateFingerprint generation.aggregate modules
  let aggregate ← AggregateFile.ofAggregate runtime generation.aggregate fingerprint
  return { modules, aggregate }

def registrations (rendering : Rendering) : Nat :=
  rendering.modules.foldr (fun rendered total => rendered.registrations + total) 0

def diagnostics (rendering : Rendering) : List Diagnostic :=
  rendering.modules.flatMap (·.diagnostics)

/-! ## One file -/

def inlined (modules : List RenderedModule) (entry : ModuleEntry) :
    Except BindingError InlineModule :=
  match modules.find? (·.file.ident == entry.name.text) with
  | none => .error (.render (.unknownModule entry.name.text))
  | some rendered =>
      match rendered.file.readAttributes? with
      | some attributes => .ok { name := entry.name, file := rendered.file, attributes }
      | none => .error (.render (.doesNotParse rendered.file.ident))

/-- The aggregate with every module inline. -/
def singleFile (rendering : Rendering) : Except BindingError SingleFile := do
  let modules ← rendering.aggregate.modules.mapM (inlined rendering.modules)
  return {
    fingerprint := rendering.aggregate.fingerprint
    runtime := rendering.aggregate.runtime
    modules }

end Rendering

end NativeBridge.Source
