import NativeBridge.BindingError
import NativeBridge.Catalogue.Descriptor

/-!
# Plans of trampolines

A plan says what a trampoline does, in this order:

- the window of the call is taken off the stack: the receiver, and above it the parameters;
- the parameters are read from the top down, the last one first, and objects passed by value are
  given up as soon as they are read;
- the receiver is read;
- the method is called in the way its name asks for;
- parameters passed by reference are written back, the last one first;
- the result is pushed.
-/

namespace NativeBridge

/-! ## Operators -/

inductive Operator where
  | equality
  | inequality
  | addition
  | subtraction
  | multiply
  | division
  | unaryNegation
  deriving DecidableEq, Repr, Inhabited

namespace Operator

def all : List Operator :=
  [.equality, .inequality, .addition, .subtraction, .multiply, .division, .unaryNegation]

def name : Operator → String
  | .equality => "Equality"
  | .inequality => "Inequality"
  | .addition => "Addition"
  | .subtraction => "Subtraction"
  | .multiply => "Multiply"
  | .division => "Division"
  | .unaryNegation => "UnaryNegation"

def ofName? (name : String) : Option Operator := all.find? (·.name == name)

def arity : Operator → Nat
  | .unaryNegation => 1
  | _ => 2

def symbol : Operator → String
  | .equality => "=="
  | .inequality => "!="
  | .addition => "+"
  | .subtraction => "-"
  | .multiply => "*"
  | .division => "/"
  | .unaryNegation => "-"

end Operator

/-! ## Steps -/

structure ParamStep where
  index : Nat
  name : String
  offset : Nat
  type : TypeRef
  kind : Kind
  coercion : Option Coercion
  byRef : Bool
  free : Bool
  deriving Repr, BEq, Inhabited

structure ReceiverStep where
  offset : Nat
  type : TypeRef
  kind : Kind
  coercion : Option Coercion
  resolve : Bool
  free : Bool
  deriving Repr, BEq, Inhabited

inductive Dispatch where
  | static (method : String)
  | onInstance (method : String)
  | propertyGet (property : String) (indexer : Bool)
  | propertySet (property : String) (indexer : Bool)
  | operator (op : Operator)
  deriving DecidableEq, Repr, Inhabited

structure WriteBack where
  index : Nat
  offset : Nat
  kind : Kind
  deriving DecidableEq, Repr, Inhabited

inductive ReturnStep where
  | void
  | value (kind : Kind)
  | object (unwrapAdapter : Bool)
  deriving DecidableEq, Repr, Inhabited

structure Plan where
  ident : String
  ordinal : Nat
  signature : Signature
  declaring : TypeRef
  window : Nat
  params : List ParamStep
  receiver : Option ReceiverStep
  dispatch : Dispatch
  writeBacks : List WriteBack
  ret : ReturnStep
  resultType : TypeRef
  deriving Repr, BEq, Inhabited

namespace Plan

def isStatic (plan : Plan) : Bool := plan.receiver.isNone

def paramsInOrder (plan : Plan) : List ParamStep :=
  plan.params.mergeSort fun a b => a.index ≤ b.index

def text (plan : Plan) : String := plan.ident ++ " => " ++ plan.signature.text

/-! ## Building plans -/

def dispatch? (declaring : TypeRef) (method : Method) : Except BindingError Dispatch :=
  let count := method.params.length
  let invalidIndexer := BindingError.invalidIndexer method.name declaring.reference count
  if !method.specialName then
    .ok (if method.isStatic then .static method.name else .onInstance method.name)
  else match method.specialParts? with
    | some ("get", property) =>
        if count > 1 then .error invalidIndexer else .ok (.propertyGet property (count == 1))
    | some ("set", property) =>
        if count = 0 ∨ count > 2 then .error invalidIndexer
        else .ok (.propertySet property (count == 2))
    | some ("op", name) =>
        if method.isStatic then
          match Operator.ofName? name with
          | some op =>
              if op.arity = count then .ok (.operator op)
              else .error (.unsupportedOperator method.name declaring.reference)
          | none => .error (.unsupportedOperator method.name declaring.reference)
        else .error (.unsupportedSpecialName method.name declaring.reference)
    | _ => .error (.unsupportedSpecialName method.name declaring.reference)

def kindIn (declaring : TypeRef) (method : Method) (type : TypeRef) : Except BindingError Kind :=
  match type.kind? with
  | some kind => .ok kind
  | none => .error (.unsupportedKind type.reference (declaring.reference ++ "::" ++ method.name))

def coercionFor (type : TypeRef) : Option Coercion :=
  type.coercionMode?.map fun mode => { target := type.reference, mode }

def paramStep (declaring : TypeRef) (method : Method) (param : Parameter) (index : Nat) :
    Except BindingError ParamStep := do
  let kind ← kindIn declaring method param.type
  return {
    index
    name := param.name
    offset := method.params.length - index
    type := param.type
    kind
    coercion := coercionFor param.type
    byRef := param.byRef
    free := !param.byRef && kind == .object }

def receiverStep (declaring : TypeRef) (method : Method) : Except BindingError ReceiverStep := do
  let kind ← kindIn declaring method declaring
  return {
    offset := method.params.length + 1
    type := declaring
    kind
    coercion := coercionFor declaring
    resolve := declaring.isValueType
    free := !declaring.isPrimitive }

def returnStep (declaring : TypeRef) (method : Method) : Except BindingError ReturnStep := do
  let type := method.resultType
  if type.isVoid then return .void
  match ← kindIn declaring method type with
  | .object => return .object (!type.isSealed)
  | kind => return .value kind

def writeBacksOf (params : List ParamStep) : List WriteBack :=
  (params.filter (·.byRef)).map fun step =>
    { index := step.index, offset := step.offset, kind := step.kind }

/-- The plan of a method. What its name asks for is checked first, then the parameters from the last
to the first, the receiver and the result. -/
def build (declaring : TypeRef) (method : Method) (ordinal : Nat) : Except BindingError Plan := do
  let dispatch ← dispatch? declaring method
  let params ← method.params.zipIdx.reverse.mapM fun (param, index) =>
    paramStep declaring method param index
  let receiver ← if method.isStatic then pure none else some <$> receiverStep declaring method
  let ret ← returnStep declaring method
  return {
    ident := trampolineIdent method.name ordinal
    ordinal
    signature := method.signature declaring
    declaring
    window := method.params.length + (if method.isStatic then 0 else 1)
    params
    receiver
    dispatch
    writeBacks := writeBacksOf params
    ret
    resultType := method.resultType }

end Plan

end NativeBridge
