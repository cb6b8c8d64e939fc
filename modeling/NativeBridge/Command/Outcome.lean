import NativeBridge.Command.Help
import NativeBridge.Output.Writing

/-!
# Carrying out requests

A request ends with an exit code and with what was printed. The options are read first, then the
catalogue; nothing is written unless every file could be rendered.
-/

namespace NativeBridge.Command

open Source (Rendering)

structure Outcome where
  exitCode : UInt8 := 0
  out : String := ""
  err : String := ""
  deriving DecidableEq, Repr, Inhabited

inductive Failure where
  | options (path : String) (cause : BindingError)
  | catalogue (path : String) (cause : BindingError)
  | writing (folder : String) (cause : BindingError)
  | binding (error : BindingError)
  deriving DecidableEq, Repr, Inhabited

def Failure.message : Failure → String
  | .options path cause => "failed to read options from " ++ path ++ causeText cause
  | .catalogue path cause => "failed to load catalogue " ++ path ++ causeText cause
  | .writing folder cause => "failed to write bindings to " ++ folder ++ causeText cause
  | .binding error => error.message
where
  causeText (cause : BindingError) : String :=
    "\n\nCaused by:" ++ String.join ((cause.message.splitOn "\n").map ("\n    " ++ ·))

def failed (warnings : String) (failure : Failure) : Outcome :=
  { exitCode := if failure = .binding .panic then 101 else 1
    err := warnings ++ "Error: " ++ failure.message ++ "\n" }

/-! ## Inputs -/

variable {m : Type → Type} [Monad m]

def orFail {α : Type} (failure : BindingError → Failure) (result : Except BindingError α) :
    ExceptT Failure m α :=
  ExceptT.mk (pure (result.mapError failure))

def loadOptions (files : FileAccess m) : Option String → ExceptT Failure m Options
  | none => return {}
  | some path => do
      match ← (files.read path : m (Option String)) with
      | none => throw (.options path .io)
      | some text => orFail (.options path) (Options.ofToml text)

def loadCatalogue (files : FileAccess m) (path : String) : ExceptT Failure m Catalogue := do
  match ← (files.read path : m (Option String)) with
  | none => throw (.catalogue path .io)
  | some text => orFail (.catalogue path) (Catalogue.ofText text)

/-! ## Inspection -/

def padded (width : Nat) (word : String) : String :=
  word ++ String.ofList (List.replicate (width - word.length) ' ')

def moduleLines (self : BindingModule) : List String :=
  [self.ident ++ "  (" ++ self.reference ++ ")"] ++
    self.plans.map (fun plan => "  " ++ padded 24 plan.ident ++ " " ++ plan.signature.text) ++
    self.skipped.map (fun (method, reason) => "  skipped " ++ method ++ ": " ++ reason.text) ++
    self.diagnostics.map (fun diagnostic =>
      "  error " ++ diagnostic.method ++ ": " ++ diagnostic.message)

def inspectionLines (generation : Generation) : List String :=
  generation.modules.flatMap moduleLines ++
    generation.skippedTypes.map (· ++ "  (obsolete, skipped)") ++
    [toString generation.modules.length ++ " modules, " ++
      toString generation.registrations ++ " registrations"]

def loadGeneration (files : FileAccess m) (catalogue : String) (options : Options) :
    ExceptT Failure m Generation := do
  let catalogue ← loadCatalogue files catalogue
  orFail .binding (Generation.generate catalogue options)

def inspect (files : FileAccess m) (catalogue : String) (config : Option String) : m Outcome := do
  let loaded := do
    let options ← loadOptions files config
    loadGeneration files catalogue options
  match ← loaded.run with
  | .error failure => return failed "" failure
  | .ok generation =>
      return { out := String.join ((inspectionLines generation).map (· ++ "\n")) }

/-! ## Generation -/

variable [Source.Grammar]

def reportLines (folder : String) (generation : Generation) (rendering : Rendering)
    (report : WriteReport) : List String :=
  ["Generated " ++ toString rendering.modules.length ++ " modules (" ++
      toString rendering.registrations ++ " registrations) in " ++ folder,
    "  " ++ toString report.written.length ++ " files written, " ++
      toString report.unchanged.length ++ " unchanged, " ++
      toString generation.skippedTypes.length ++ " types skipped"]

def overridden (options : Options) (suffix runtimeCrate : Option String) : Options :=
  { options with
    suffix := suffix.getD options.suffix
    runtimeCrate := runtimeCrate.getD options.runtimeCrate }

def generate (files : FileAccess m) (catalogue folder : String)
    (config suffix runtimeCrate : Option String) : m Outcome := do
  let rendered := do
    let options ← loadOptions files config
    let options := overridden options suffix runtimeCrate
    let generation ← loadGeneration files catalogue options
    let rendering ← orFail .binding (Rendering.ofGeneration generation options)
    return (generation, rendering)
  match ← rendered.run with
  | .error failure => return failed "" failure
  | .ok (generation, rendering) =>
      let warnings := String.join
        (rendering.diagnostics.map fun diagnostic => "warning: " ++ diagnostic.text ++ "\n")
      match ← (writeRendering files folder rendering).run with
      | .error cause => return failed warnings (.writing folder cause)
      | .ok report =>
          return {
            out := String.join ((reportLines folder generation rendering report).map (· ++ "\n"))
            err := warnings }

/-! ## Whole runs -/

def carryOut (files : FileAccess m) : Request → m Outcome
  | .generate catalogue out config suffix runtimeCrate =>
      generate files catalogue out config suffix runtimeCrate
  | .inspect catalogue config => inspect files catalogue config
  | .help topic => return { out := topic.text }
  | .version => return { out := "stackbind " ++ generatorVersion ++ "\n" }

def run (files : FileAccess m) (args : List String) : m Outcome :=
  match parse args with
  | .ok request => carryOut files request
  | .error fault => return { exitCode := 2, err := "error: " ++ fault.message ++ "\n" }

end NativeBridge.Command
