/-!
# Method signatures

The key of a native method: the declaring type, the name, and for each parameter its type and
whether it is passed by reference. Types are given by their reference strings.
-/

namespace NativeBridge

structure ParamKey where
  typeName : String
  byRef : Bool := false
  deriving DecidableEq, Repr, Inhabited

structure Signature where
  declaring : String
  name : String
  params : List ParamKey := []
  deriving DecidableEq, Repr, Inhabited

def ParamKey.text (key : ParamKey) : String :=
  if key.byRef then "&mut " ++ key.typeName else key.typeName

def Signature.text (signature : Signature) : String :=
  signature.declaring ++ "::" ++ signature.name ++ "(" ++
    ", ".intercalate (signature.params.map ParamKey.text) ++ ")"

end NativeBridge
