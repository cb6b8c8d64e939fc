import NativeBridge.Catalogue.TypeName
import NativeBridge.Calls.Signature

/-!
# Descriptions of types and their members

What a catalogue says about a native type: its methods and properties in order of declaration. The
functions that add one thing to a description allow it to be written step by step.
-/

namespace NativeBridge

inductive Visibility where
  | everyone
  | subclasses
  | assembly
  | declaringType
  deriving DecidableEq, Repr, Inhabited

def Visibility.all : List Visibility := [.everyone, .subclasses, .assembly, .declaringType]

def Visibility.name : Visibility → String
  | .everyone => "Public"
  | .subclasses => "Protected"
  | .assembly => "Internal"
  | .declaringType => "Private"

structure Parameter where
  name : String
  type : TypeRef
  byRef : Bool := false
  position : Nat := 0
  deriving Repr, BEq, Inhabited

structure Method where
  name : String
  visibility : Visibility := .everyone
  isStatic : Bool := false
  genericParams : Nat := 0
  specialName : Bool := false
  obsolete : Bool := false
  params : List Parameter := []
  result : Option TypeRef := none
  deriving Repr, BEq, Inhabited

structure Property where
  name : String
  obsolete : Bool := false
  deriving Repr, BEq, DecidableEq, Inhabited

structure TypeDescriptor where
  type : TypeRef
  methods : List Method := []
  properties : List Property := []
  obsolete : Bool := false
  deriving Repr, BEq, Inhabited

namespace Method

def static (name : String) : Method := { name, isStatic := true }

def onInstance (name : String) : Method := { name }

def addParam (method : Method) (name : String) (type : TypeRef) (byRef : Bool) : Method :=
  { method with
    params := method.params ++ [{ name, type, byRef, position := method.params.length }] }

def resultType (method : Method) : TypeRef := method.result.getD .void

def specialParts? (method : Method) : Option (String × String) :=
  if method.specialName then
    (splitFirst '_' method.name.toList).map fun (before, after) =>
      (String.ofList before, String.ofList after)
  else none

def signature (declaring : TypeRef) (method : Method) : Signature :=
  { declaring := declaring.reference
    name := method.name
    params := method.params.map fun param =>
      { typeName := param.type.reference, byRef := param.byRef } }

end Method

namespace TypeDescriptor

def ofType (type : TypeRef) : TypeDescriptor := { type }

def addMethod (descriptor : TypeDescriptor) (method : Method) : TypeDescriptor :=
  { descriptor with methods := descriptor.methods ++ [method] }

def addProperty (descriptor : TypeDescriptor) (name : String) (obsolete : Bool) : TypeDescriptor :=
  { descriptor with properties := descriptor.properties ++ [{ name, obsolete }] }

def asObsolete (descriptor : TypeDescriptor) : TypeDescriptor :=
  { descriptor with obsolete := true }

def property? (descriptor : TypeDescriptor) (name : String) : Option Property :=
  descriptor.properties.find? (·.name == name)

end TypeDescriptor

end NativeBridge
