import NativeBridge.Catalogue.Catalogue
import NativeBridge.Planning.Eligibility
import NativeBridge.Planning.Options
import NativeBridge.Planning.Plan
import NativeBridge.Text.Sha256

/-!
# Generations

A generation holds one module for each listed type, with the plans of its methods, and the aggregate
that lists the modules. A method that has no plan leaves a diagnostic; the others go on.

The fingerprint of a module is the digest of what the module is made from: the description of the
type, the options, and the version of the generator.
-/

namespace NativeBridge

structure Diagnostic where
  declaring : String
  method : String
  message : String
  deriving DecidableEq, Repr, Inhabited

def Diagnostic.text (diagnostic : Diagnostic) : String :=
  diagnostic.declaring ++ "::" ++ diagnostic.method ++ ": " ++ diagnostic.message

structure BindingModule where
  ident : String
  type : TypeRef
  reference : String
  plans : List Plan
  skipped : List (String × SkipReason)
  diagnostics : List Diagnostic
  fingerprint : String
  deriving Repr, BEq, Inhabited

structure Aggregate where
  name : String
  modules : List String
  deriving DecidableEq, Repr, Inhabited

structure Generation where
  modules : List BindingModule
  aggregate : Aggregate
  skippedTypes : List String
  deriving Repr, BEq, Inhabited

/-! ## Fingerprints -/

def generatorVersion : String := "0.1.0"

def fingerprintSource (descriptor : TypeDescriptor) (options : Options) : String :=
  (Document.encodeTypeDescriptor descriptor).compact ++ options.toJson.compact ++ generatorVersion

def digest (text : String) : String := Sha256.hexDigest text.toUTF8.toList

/-! ## Modules -/

namespace BindingModule

def registrations (self : BindingModule) : Nat := self.plans.length

/-- The plan of each eligible method, or why it has none. -/
def attempts (type : TypeRef) (descriptor : TypeDescriptor) :
    List (Method × Except BindingError Plan) :=
  descriptor.eligible.map fun (method, ordinal) => (method, Plan.build type method ordinal)

def plansOf (attempts : List (Method × Except BindingError Plan)) : List Plan :=
  attempts.filterMap fun (_, attempt) => attempt.toOption

def diagnosticsOf (reference : String) (attempts : List (Method × Except BindingError Plan)) :
    List Diagnostic :=
  attempts.filterMap fun (method, attempt) =>
    match attempt with
    | .ok _ => none
    | .error error =>
        some { declaring := reference, method := method.name, message := error.message }

def ofDescriptor (type : TypeRef) (descriptor : TypeDescriptor) (options : Options) :
    BindingModule :=
  let reference := type.reference
  let attempts := attempts type descriptor
  { ident := type.bindingIdent options.suffix
    type
    reference
    plans := plansOf attempts
    skipped := descriptor.skipped.map fun (method, reason) => (method.name, reason)
    diagnostics := diagnosticsOf reference attempts
    fingerprint := digest (fingerprintSource descriptor options) }

def build (catalogue : Catalogue) (type : TypeRef) (options : Options) :
    Except BindingError BindingModule := do
  let descriptor ← catalogue.describe type
  return ofDescriptor type descriptor options

end BindingModule

namespace Generation

def modulesOf (catalogue : Catalogue) (options : Options) :
    List TypeRef → Except BindingError (List BindingModule × List String)
  | [] => .ok ([], [])
  | type :: rest => do
      let descriptor ← catalogue.describe type
      if options.skipObsoleteTypes && descriptor.obsolete then
        let (modules, skipped) ← modulesOf catalogue options rest
        return (modules, type.reference :: skipped)
      else
        let self ← BindingModule.build catalogue type options
        let (modules, skipped) ← modulesOf catalogue options rest
        return (self :: modules, skipped)

def firstRepeated? (seen : List String) : List String → Option String
  | [] => none
  | word :: rest => if seen.contains word then some word else firstRepeated? (word :: seen) rest

def ofListed (catalogue : Catalogue) (listed : List TypeRef) (options : Options) :
    Except BindingError Generation := do
  options.validate
  let (modules, skippedTypes) ← modulesOf catalogue options listed
  let idents := modules.map (·.ident)
  match firstRepeated? [] idents with
  | some ident => throw (.catalogue (.duplicateModule ident))
  | none =>
      return { modules, aggregate := { name := options.aggregate, modules := idents }, skippedTypes }

def generate (catalogue : Catalogue) (options : Options) : Except BindingError Generation :=
  ofListed catalogue catalogue.listed options

def registrations (generation : Generation) : Nat :=
  generation.modules.foldr (fun self total => self.registrations + total) 0

def diagnostics (generation : Generation) : List Diagnostic :=
  generation.modules.flatMap (·.diagnostics)

def module? (generation : Generation) (ident : String) : Option BindingModule :=
  generation.modules.find? (·.ident == ident)

end Generation

end NativeBridge
