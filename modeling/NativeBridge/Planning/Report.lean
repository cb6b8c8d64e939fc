import NativeBridge.Planning.Generation
import NativeBridge.Text.JsonForms

/-!
# Reports of generations

Plans and modules as JSON, with every type by its reference.
-/

namespace NativeBridge

open Json (single optional list)

def Coercion.report (coercion : Coercion) : Json :=
  .array [.string coercion.target, .string coercion.mode.name]

def Dispatch.report : Dispatch → Json
  | .static method => single "static" (.string method)
  | .onInstance method => single "instance" (.string method)
  | .propertyGet property indexer =>
      .object [("get", .string property), ("indexer", .bool indexer)]
  | .propertySet property indexer =>
      .object [("set", .string property), ("indexer", .bool indexer)]
  | .operator op =>
      .object [("operator", .string op.name), ("arity", .ofNat op.arity),
        ("symbol", .string op.symbol)]

def ReturnStep.report : ReturnStep → Json
  | .void => .string "void"
  | .value kind => single "value" (.string kind.name)
  | .object unwrapAdapter => single "object" (single "unwrap_adapter" (.bool unwrapAdapter))

def ParamStep.report (step : ParamStep) : Json :=
  .object [("index", .ofNat step.index), ("name", .string step.name),
    ("offset", .ofNat step.offset), ("type", .string step.type.reference),
    ("kind", .string step.kind.name), ("coercion", optional Coercion.report step.coercion),
    ("by_ref", .bool step.byRef), ("free", .bool step.free)]

def ReceiverStep.report (step : ReceiverStep) : Json :=
  .object [("offset", .ofNat step.offset), ("type", .string step.type.reference),
    ("kind", .string step.kind.name), ("coercion", optional Coercion.report step.coercion),
    ("resolve", .bool step.resolve), ("free", .bool step.free)]

def WriteBack.report (step : WriteBack) : Json :=
  .array [.ofNat step.index, .ofNat step.offset, .string step.kind.name]

def Plan.report (plan : Plan) : Json :=
  .object [("ident", .string plan.ident), ("ordinal", .ofNat plan.ordinal),
    ("signature", .string plan.signature.text), ("display", .string plan.text),
    ("declaring", .string plan.declaring.reference), ("window", .ofNat plan.window),
    ("is_static", .bool plan.isStatic), ("params", list ParamStep.report plan.params),
    ("in_order", list (fun step => .ofNat step.index) plan.paramsInOrder),
    ("receiver", optional ReceiverStep.report plan.receiver),
    ("dispatch", plan.dispatch.report), ("write_backs", list WriteBack.report plan.writeBacks),
    ("ret", plan.ret.report), ("return_type", .string plan.resultType.reference)]

def SkipReason.report (method : String) (reason : SkipReason) : Json :=
  .array [.string method, .string reason.name, .string reason.text]

def Diagnostic.report (diagnostic : Diagnostic) : Json :=
  .object [("declaring", .string diagnostic.declaring), ("method", .string diagnostic.method),
    ("message", .string diagnostic.message), ("display", .string diagnostic.text)]

def BindingModule.report (self : BindingModule) : Json :=
  .object [("ident", .string self.ident), ("reference", .string self.reference),
    ("fingerprint", .string self.fingerprint), ("registrations", .ofNat self.registrations),
    ("plans", list Plan.report self.plans),
    ("skipped", list (fun skip => skip.2.report skip.1) self.skipped),
    ("diagnostics", list Diagnostic.report self.diagnostics)]

def Generation.report (generation : Generation) : Json :=
  .object [("modules", list BindingModule.report generation.modules),
    ("aggregate", .object [("name", .string generation.aggregate.name),
      ("modules", list Json.string generation.aggregate.modules)]),
    ("skipped_types", list Json.string generation.skippedTypes),
    ("registrations", .ofNat generation.registrations),
    ("diagnostics", .ofNat generation.diagnostics.length)]

end NativeBridge
