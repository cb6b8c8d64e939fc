import NativeBridge.Planning.Plan
import NativeBridge.Source.CodeType

/-!
# Stubs

A stub is the emitted function that carries out one plan. It says the same as the plan, with every
name checked for use in code and with the native form of each value:

- numbers and strings are passed as such, and structs by value under their own type;
- every other object is passed as a handle;
- the receiver of a class or a struct is borrowed in place; any other one is converted.

The method is called inside a guard that turns a panic into a failure.
-/

namespace NativeBridge.Source

variable [Grammar]

/-! ## Native forms -/

inductive NativeForm where
  | unit
  | number (kind : Kind)
  | string
  | struct (type : CodeType) (reference : String)
  | handle
  deriving DecidableEq, Repr, Inhabited

def NativeForm.ofType (type : TypeRef) : Except RenderFault NativeForm :=
  match type.category with
  | .void => .ok .unit
  | .primitive =>
      match Kind.ofPrimitiveName? type.name with
      | some kind => .ok (.number kind)
      | none => .error (.unknownPrimitive type.name)
  | .string => .ok .string
  | .struct => do
      let code ← CodeType.ofReference type.reference
      return .struct code type.reference
  | .classType | .interface | .any | .script => .ok .handle

/-! ## The parts of a stub -/

structure Read where
  variableName : String
  form : NativeForm
  offset : Nat
  kind : Kind
  coercion : Option Coercion
  byRef : Bool
  free : Bool
  deriving DecidableEq, Repr, Inhabited

inductive ReceiverUse where
  | converted (form : NativeForm)
  | borrowed (type : CodeType) (reference : String)
  deriving DecidableEq, Repr, Inhabited

structure SelfRead where
  offset : Nat
  kind : Kind
  coercion : Option Coercion
  resolve : Bool
  free : Bool
  use : ReceiverUse
  deriving DecidableEq, Repr, Inhabited

structure Argument where
  variableName : String
  byRef : Bool
  deriving DecidableEq, Repr, Inhabited

inductive Call where
  | static (owner : CodeType) (method : Ident) (args : List Argument)
  | onSelf (method : Ident) (args : List Argument)
  | entry (key : String)
  | setEntry (key value : String)
  | negation (operand : String)
  | binary (op : Operator) (left right : String)
  deriving DecidableEq, Repr, Inhabited

structure Write where
  offset : Nat
  kind : Kind
  variableName : String
  form : NativeForm
  deriving DecidableEq, Repr, Inhabited

structure Stub where
  name : Ident
  signature : Signature
  window : Nat
  reads : List Read
  receiver : Option SelfRead
  call : Call
  result : Option NativeForm
  writes : List Write
  ret : ReturnStep
  deriving DecidableEq, Repr, Inhabited

/-! ## Stubs of plans -/

def variableName (step : ParamStep) : String := sanitized step.name ++ "_" ++ toString step.index

namespace Read

def ofStep (step : ParamStep) : Except RenderFault Read := do
  let form ← NativeForm.ofType step.type
  return {
    variableName := Source.variableName step
    form
    offset := step.offset
    kind := step.kind
    coercion := step.coercion
    byRef := step.byRef
    free := step.free }

end Read

namespace SelfRead

def useOf (plan : Plan) (type : TypeRef) : Except RenderFault ReceiverUse :=
  match type.category with
  | .classType | .struct => do
      let code ← CodeType.ofReference plan.declaring.reference
      return .borrowed code plan.declaring.reference
  | .interface => .error (.interfaceReceiver plan.signature.text)
  | _ => .converted <$> NativeForm.ofType type

def ofStep (step : ReceiverStep) (use : ReceiverUse) : SelfRead :=
  { offset := step.offset
    kind := step.kind
    coercion := step.coercion
    resolve := step.resolve
    free := step.free
    use }

end SelfRead

namespace Call

def owner? (plan : Plan) : Except RenderFault (Option CodeType) :=
  if plan.isStatic then some <$> CodeType.ofReference plan.declaring.reference else return none

def named (owner : Option CodeType) (method : Ident) (args : List Argument) : Call :=
  match owner with
  | some type => .static type method args
  | none => .onSelf method args

def ofDispatch (plan : Plan) (owner : Option CodeType) : Except RenderFault Call :=
  let steps := plan.paramsInOrder
  let args := steps.map fun step =>
    { variableName := variableName step, byRef := step.byRef : Argument }
  let operand (index : Nat) : String := (steps[index]?.map variableName).getD ""
  match plan.dispatch with
  | .static method | .onInstance method => return named owner (← Ident.ofName method) args
  | .propertyGet property false => return named owner (← Ident.ofName property) []
  | .propertySet property false => return named owner (← Ident.ofName ("set_" ++ property)) args
  | .propertyGet _ true =>
      if owner.isSome then .error (.staticIndexer plan.signature.text)
      else .ok (.entry (operand 0))
  | .propertySet _ true =>
      if owner.isSome then .error (.staticIndexer plan.signature.text)
      else .ok (.setEntry (operand 0) (operand 1))
  | .operator .unaryNegation => .ok (.negation (operand 0))
  | .operator op => .ok (.binary op (operand 0) (operand 1))

end Call

namespace Write

def ofStep (plan : Plan) (step : WriteBack) : Except RenderFault Write :=
  match plan.params.find? (·.index == step.index) with
  | some param => do
      let form ← NativeForm.ofType param.type
      return {
        offset := step.offset
        kind := step.kind
        variableName := Source.variableName param
        form }
  | none => .error (.noParameter plan.signature.text step.index)

end Write

namespace Stub

/-- The stub of a plan. The first part that has no form in code decides the fault: the name, the
parameters in the order in which they are read, the receiver, the call, the borrowing, the result,
the writing back. -/
def ofPlan (plan : Plan) : Except RenderFault Stub := do
  let name ← Ident.ofName plan.ident
  let reads ← plan.params.mapM Read.ofStep
  match plan.receiver with
  | some step => if step.type.category == .interface then
      throw (.interfaceReceiver plan.signature.text)
  | none => pure ()
  let owner ← Call.owner? plan
  let call ← Call.ofDispatch plan owner
  let receiver ← plan.receiver.mapM fun step => do
    return SelfRead.ofStep step (← SelfRead.useOf plan step.type)
  let result ← if plan.resultType.isVoid then pure none
    else some <$> NativeForm.ofType plan.resultType
  let writes ← plan.writeBacks.mapM (Write.ofStep plan)
  return {
    name
    signature := plan.signature
    window := plan.window
    reads
    receiver
    call
    result
    writes
    ret := plan.ret }

end Stub

end NativeBridge.Source
