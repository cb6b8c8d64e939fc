import NativeBridge.BindingError
import NativeBridge.Catalogue.Document
import NativeBridge.Text.IdentifierChars
import NativeBridge.Toml.Document

/-!
# Options of the generator

What names the output uses. The names are checked before anything is generated, so that they can be
written into code and into file names as they are.
-/

namespace NativeBridge

structure Options where
  suffix : String := "_Binding"
  runtimeCrate : String := "stackbind_sdk"
  aggregate : String := "bindings"
  skipObsoleteTypes : Bool := true
  deriving DecidableEq, Repr, Inhabited

def isAsciiIdentifier (word : List Char) : Bool :=
  match word with
  | [] => false
  | c :: _ => !Text.isAsciiDigit c && word.all Text.isAsciiWord

def splitPath : List Char → List (List Char)
  | [] => [[]]
  | ':' :: ':' :: rest => [] :: splitPath rest
  | c :: rest =>
      match splitPath rest with
      | part :: parts => (c :: part) :: parts
      | [] => [[c]]

namespace Options

/-- Checks the suffix, then the name of the aggregate, then the path of the runtime. -/
def validate (options : Options) : Except BindingError Unit :=
  if !options.suffix.toList.all Text.isAsciiWord then
    .error (.invalidOption (.suffix options.suffix))
  else if !isAsciiIdentifier options.aggregate.toList then
    .error (.invalidOption (.aggregate options.aggregate))
  else if !(splitPath options.runtimeCrate.toList).all isAsciiIdentifier then
    .error (.invalidOption (.runtimePath options.runtimeCrate))
  else .ok ()

/-! ## Options as JSON -/

def fieldNames : List String := ["suffix", "runtime_crate", "aggregate", "skip_obsolete_types"]

def ofJson? (json : Json) : Option Options := do
  match ← Document.fields? fieldNames json with
  | [suffix, runtimeCrate, aggregate, skipObsoleteTypes] =>
      let standard : Options := {}
      some {
        suffix := ← Document.optional standard.suffix Document.string? suffix
        runtimeCrate := ← Document.optional standard.runtimeCrate Document.string? runtimeCrate
        aggregate := ← Document.optional standard.aggregate Document.string? aggregate
        skipObsoleteTypes :=
          ← Document.optional standard.skipObsoleteTypes Document.bool? skipObsoleteTypes }
  | _ => none

def toJson (options : Options) : Json :=
  .object [("suffix", .string options.suffix), ("runtime_crate", .string options.runtimeCrate),
    ("aggregate", .string options.aggregate),
    ("skip_obsolete_types", .bool options.skipObsoleteTypes)]

/-! ## Options as TOML -/

def tomlText? (entries : Toml.Entries) (key default : String) : Option String :=
  match entries.get? key with
  | none => some default
  | some (.value (.text s)) => some s
  | some _ => none

def tomlFlag? (entries : Toml.Entries) (key : String) (default : Bool) : Option Bool :=
  match entries.get? key with
  | none => some default
  | some (.value (.flag b)) => some b
  | some _ => none

def ofEntries? (entries : Toml.Entries) : Option Options := do
  let standard : Options := {}
  some {
    suffix := ← tomlText? entries "suffix" standard.suffix
    runtimeCrate := ← tomlText? entries "runtime_crate" standard.runtimeCrate
    aggregate := ← tomlText? entries "aggregate" standard.aggregate
    skipObsoleteTypes := ← tomlFlag? entries "skip_obsolete_types" standard.skipObsoleteTypes }

def ofToml (text : String) : Except BindingError Options :=
  match (Toml.parse text).bind ofEntries? with
  | some options => do
      options.validate
      return options
  | none => .error .config

end Options

end NativeBridge
