import NativeBridge.Source.Stub

/-!
# Stubs as code

The tokens of a stub. The path of the runtime is a parameter of every function here.
-/

namespace NativeBridge.Source

/-! ## Values -/

namespace NativeForm

def typeTokens (rt : List Token) : NativeForm → List Token
  | .unit => parens []
  | .number kind => [.word kind.typeName]
  | .string => code "String"
  | .struct type _ => type.tokens
  | .handle => rt ++ code "::NativeValue"

def takeTokens (rt : List Token) (value : List Token) : NativeForm → List Token
  | .struct type reference =>
      rt ++ code "::unbox_native::<" ++ type.tokens ++ code ">" ++
        parens (commaSeparated [code "&" ++ value, [.literal reference]]) ++ code "?"
  | form =>
      code "<" ++ form.typeTokens rt ++ code "as" ++ rt ++ code "::FromNative>::from_native" ++
        parens value ++ code "?"

def giveTokens (rt : List Token) (value : List Token) : NativeForm → List Token
  | .struct _ reference =>
      rt ++ code "::box_native" ++ parens (commaSeparated [[.literal reference], value])
  | _ => rt ++ code "::IntoNative::into_native" ++ parens value

end NativeForm

def kindTokens (rt : List Token) (kind : Kind) : List Token :=
  rt ++ code "::ValueKind::" ++ [.word kind.name]

def coercionTokens (rt : List Token) : Option Coercion → List Token
  | some coercion =>
      code "Some" ++ parens (code "&" ++ rt ++ code "::Coercion::new" ++
        parens (commaSeparated
          [[.literal coercion.target], rt ++ code "::CoercionMode::" ++ [.word coercion.mode.name]]))
  | none => code "None"

/-! ## Reading -/

def loadTokens (rt : List Token) (offset : Nat) (resolve : Bool) (kind : Kind)
    (coercion : Option Coercion) : List Token :=
  code "let at = esp.minus" ++ parens (sizeNumber offset) ++ code "?;" ++
    code "let location =" ++
    (if resolve then code "ctx.resolve_reference(at)?" else rt ++ code "::Location::Slot(at)") ++
    code ";" ++
    code "let value = ctx.load" ++
    parens (commaSeparated [code "location", kindTokens rt kind, coercionTokens rt coercion]) ++
    code "?;"

def freeTokens (free : Bool) : List Token := if free then code "ctx.free(at)?;" else []

def Read.tokens (rt : List Token) (read : Read) : List Token :=
  code "let" ++ (if read.byRef then code "mut" else []) ++ [.word read.variableName] ++ code ":" ++
    read.form.typeTokens rt ++ code "=" ++
    braces (loadTokens rt read.offset read.byRef read.kind read.coercion ++ freeTokens read.free ++
      read.form.takeTokens rt (code "value")) ++
    code ";"

def nullCheckTokens (rt : List Token) : List Token :=
  code "if value.is_null()" ++
    braces (code "return Err" ++
      parens (rt ++ code "::VmError::NullReference" ++
        parens (code "format!" ++
          parens (commaSeparated [[.literal "receiver of \x7b\x7d"], code "method"]))) ++
      code ";")

def SelfRead.tokens (rt : List Token) (read : SelfRead) : List Token :=
  let load :=
    code "let this_value =" ++
      braces (loadTokens rt read.offset read.resolve read.kind read.coercion ++
        nullCheckTokens rt ++ freeTokens read.free ++ code "value") ++
      code ";"
  match read.use with
  | .converted form =>
      load ++ code "let mut this:" ++ form.typeTokens rt ++ code "=" ++
        form.takeTokens rt (code "this_value") ++ code ";"
  | .borrowed _ _ => load

/-! ## Calling -/

def argumentTokens (args : List Argument) : List Token :=
  parens (commaSeparated (args.map fun arg =>
    (if arg.byRef then code "&mut" else []) ++ [.word arg.variableName]))

namespace Call

def tokens : Call → List Token
  | .static owner method args =>
      code "<" ++ owner.tokens ++ code ">::" ++ [method.token] ++ argumentTokens args
  | .onSelf method args => code "this." ++ [method.token] ++ argumentTokens args
  | .entry key => code "this" ++ brackets [.word key] ++ code ".clone()"
  | .setEntry key value =>
      code "this" ++ brackets [.word key] ++ code "=" ++ [.word value]
  | .negation operand => parens (code "-" ++ [.word operand])
  | .binary op left right => parens ([.word left] ++ code op.symbol ++ [.word right])

def bodyTokens (call : Call) (hasResult : Bool) : List Token :=
  if hasResult then call.tokens else braces (call.tokens ++ code ";")

/-- The call as all that a closure does. A closure around an expression or a single assignment needs
no block. -/
def closureTokens (call : Call) (hasResult : Bool) : List Token :=
  match call with
  | .setEntry _ _ => call.tokens
  | call => call.bodyTokens hasResult

end Call

def guardedTokens (rt : List Token) (receiver : Option SelfRead) (call : Call) (hasResult : Bool) :
    List Token :=
  match receiver with
  | some { use := .borrowed type reference, .. } =>
      rt ++ code "::with_native_mut::<" ++ type.tokens ++ code ", _>" ++
        parens (commaSeparated [code "&this_value", [.literal reference],
          code "|this|" ++ call.closureTokens hasResult])
  | _ => code "Ok" ++ parens (call.bodyTokens hasResult)

/-! ## Whole stubs -/

def Write.tokens (rt : List Token) (write : Write) : List Token :=
  code "let location = ctx.resolve_reference" ++
    parens (code "esp.minus" ++ parens (sizeNumber write.offset) ++ code "?") ++ code "?;" ++
    code "ctx.store" ++
    parens (commaSeparated [code "location", kindTokens rt write.kind,
      write.form.giveTokens rt [.word write.variableName]]) ++
    code "?;"

def finishTokens (rt : List Token) (form : Option NativeForm) (ret : ReturnStep) : List Token :=
  let result := (form.getD .unit).giveTokens rt (code "result")
  match ret with
  | .void => code "Ok(ret)"
  | .value kind =>
      code "ctx.push_value" ++
        parens (commaSeparated [code "ret", kindTokens rt kind, code "&" ++ result])
  | .object unwrapAdapter =>
      code "ctx.push_object" ++
        parens (commaSeparated [code "ret", result,
          code (if unwrapAdapter then "true" else "false")])

namespace Stub

def parameterTokens (rt : List Token) : List Token :=
  parens (commaSeparated
    [code "ctx: &mut" ++ rt ++ code "::CallContext<'_>",
      code "esp:" ++ rt ++ code "::StackPtr",
      code "method: &" ++ rt ++ code "::MethodSignature"])

def bodyTokens (rt : List Token) (stub : Stub) : List Token :=
  let guarded :=
    rt ++ code "::catch_native" ++
      parens (commaSeparated [code "method",
        code "| |" ++ guardedTokens rt stub.receiver stub.call stub.result.isSome]) ++
      code "?;"
  code "let ret = esp.minus" ++ parens (sizeNumber stub.window) ++ code "?;" ++
    stub.reads.flatMap (Read.tokens rt) ++
    (stub.receiver.map (SelfRead.tokens rt)).getD [] ++
    (match stub.result with
      | some form => code "let result:" ++ form.typeTokens rt ++ code "="
      | none => []) ++
    guarded ++
    stub.writes.flatMap (Write.tokens rt) ++
    finishTokens rt stub.result stub.ret

def tokens (rt : List Token) (stub : Stub) : List Token :=
  code "fn" ++ [stub.name.token] ++ parameterTokens rt ++
    code "->" ++ rt ++ code "::VmResult<" ++ rt ++ code "::StackPtr>" ++
    braces (stub.bodyTokens rt)

end Stub

end NativeBridge.Source
