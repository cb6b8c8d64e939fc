import NativeBridge.Planning.Generation
import NativeBridge.Source.Attribute
import NativeBridge.Source.StubText

/-!
# Emitted files

Each module is a file of its own; the aggregate is a file that names the files of the modules and
registers them all. Both can be put into one file, in which the modules stand inline. Every file
begins with comment lines, of which the first one carries the fingerprint.
-/

namespace NativeBridge.Source

structure CodeFile where
  header : List String
  body : List (List Token)
  deriving DecidableEq, Repr, Inhabited

def fingerprintMark : String := "// fingerprint: "

namespace CodeFile

def text (file : CodeFile) : String :=
  String.join ((file.header ++ [""] ++ file.body.map line).map (· ++ "\n"))

def dropLastCommas : List Token → List Token
  | [] => []
  | token :: rest =>
      let last := match rest with
        | next :: _ => isClosing next || next == .mark ">"
        | [] => false
      if token == .mark "," && last then dropLastCommas rest else token :: dropLastCommas rest

/-- The body in the form in which bodies are compared, whatever way lists are laid out. -/
def items (file : CodeFile) : List (List Token) := file.body.map dropLastCommas

end CodeFile

/-! ## Modules -/

structure ModuleFile where
  ident : String
  reference : String
  fingerprint : String
  runtime : List Token
  stubs : List Stub
  deriving DecidableEq, Repr, Inhabited

def registrationTokens (rt : List Token) (stub : Stub) : List Token :=
  let params := stub.signature.params.map fun param =>
    rt ++ code (if param.byRef then "::ParamKey::by_ref" else "::ParamKey::value") ++
      parens [.literal param.typeName]
  let signature := rt ++ code "::MethodSignature::new" ++
    parens (commaSeparated [[.literal stub.signature.declaring], [.literal stub.signature.name],
      code "vec!" ++ brackets (commaSeparated params)])
  code "registry.register" ++
    parens (commaSeparated
      [signature, code "std::sync::Arc::new" ++ parens [stub.name.token]]) ++
    code ";"

def registryFunction (rt : List Token) (docs : List String) (name : String)
    (result body : List Token) : List Token :=
  docs.flatMap docTokens ++ code "pub fn" ++ [.word name] ++
    parens (code "registry: &mut" ++ rt ++ code "::MethodRegistry") ++ result ++ braces body

namespace ModuleFile

def doc (file : ModuleFile) : String := " Trampolines for \x60" ++ file.reference ++ "\x60"

def allowance : List Token :=
  innerAttribute (code "allow" ++ parens (commaSeparated
    [code "unused_mut", code "unused_parens", code "unused_variables", code "non_snake_case",
      code "clippy::all"]))

def attributes (file : ModuleFile) : List (List Token) := [innerDocTokens file.doc, allowance]

def functions (file : ModuleFile) : List (List Token) :=
  file.stubs.map (Stub.tokens file.runtime) ++
    [registryFunction file.runtime [" Register every trampoline of this module"] "register" []
      (file.stubs.flatMap (registrationTokens file.runtime))]

def notice (file : ModuleFile) : String :=
  "// Generated by stackbind for " ++ file.reference ++ ". Do not edit."

def header (file : ModuleFile) : List String := [fingerprintMark ++ file.fingerprint, file.notice]

def codeFile (file : ModuleFile) : CodeFile :=
  { header := file.header, body := file.attributes ++ file.functions }

/-- The attributes of the file as it is read back, unless it does not read. A reference of one line
stays inside comments; what a longer one adds to the header must be attributes, too. -/
def readAttributes? (file : ModuleFile) : Option (List (List Token)) :=
  match Text.lines file.notice.toList with
  | _ :: line :: rest => do
      let tokens ← scan (line ++ rest.flatMap ('\n' :: ·))
      let added ← attributes? tokens
      let doc ← writtenDoc? file.doc
      some (added ++ [innerDocTokens doc, allowance])
  | _ => if '\r' ∈ file.reference.toList then none else some file.attributes

def reading? (file : ModuleFile) : Option CodeFile :=
  file.readAttributes?.map fun attributes =>
    { header := file.header, body := attributes ++ file.functions }

end ModuleFile

/-! ## The aggregate -/

def initializeTokens (rt : List Token) (modules : List Ident) : List Token :=
  registryFunction rt
    [" Register every generated binding. Fails if \x60registry\x60 already", " holds bindings."]
    "initialize" (code "->" ++ rt ++ code "::VmResult<()>")
    (code "registry.begin_bindings()?;" ++
      modules.flatMap (fun name => [name.token] ++ code "::register(registry);") ++
      code "Ok(())")

structure ModuleEntry where
  name : Ident
  fileIdent : String
  deriving DecidableEq, Repr, Inhabited

structure AggregateFile where
  name : String
  fingerprint : String
  runtime : List Token
  modules : List ModuleEntry
  deriving DecidableEq, Repr, Inhabited

def generalHeader (fingerprint : String) : List String :=
  [fingerprintMark ++ fingerprint, "// Generated by stackbind. Do not edit."]

namespace AggregateFile

def moduleTokens (entry : ModuleEntry) : List Token :=
  code "#" ++ brackets (code "path =" ++ [.literal (entry.fileIdent ++ ".rs")]) ++
    code "pub mod" ++ [entry.name.token] ++ code ";"

def codeFile (file : AggregateFile) : CodeFile :=
  { header := generalHeader file.fingerprint
    body := file.modules.map moduleTokens ++
      [initializeTokens file.runtime (file.modules.map (·.name))] }

end AggregateFile

/-! ## One file -/

structure InlineModule where
  name : Ident
  file : ModuleFile
  attributes : List (List Token)
  deriving DecidableEq, Repr, Inhabited

structure SingleFile where
  fingerprint : String
  runtime : List Token
  modules : List InlineModule
  deriving DecidableEq, Repr, Inhabited

namespace SingleFile

def moduleTokens (inner : InlineModule) : List Token :=
  code "pub mod" ++ [inner.name.token] ++
    braces (inner.attributes ++ inner.file.functions).flatten

def codeFile (file : SingleFile) : CodeFile :=
  { header := generalHeader file.fingerprint
    body := file.modules.map moduleTokens ++
      [initializeTokens file.runtime (file.modules.map (·.name))] }

end SingleFile

end NativeBridge.Source
