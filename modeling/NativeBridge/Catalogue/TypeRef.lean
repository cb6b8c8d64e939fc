import NativeBridge.Machine.Kind
import NativeBridge.Machine.Coercion

/-!
# Type references

The identity of a native type: its namespace or the type it is nested in, its name, its generic
arguments, and the category that decides how its values cross the boundary.
-/

namespace NativeBridge

inductive Category where
  | void
  | primitive
  | struct
  | classType
  | interface
  | string
  | any
  | script
  deriving DecidableEq, Repr, Inhabited

def Category.all : List Category :=
  [.void, .primitive, .struct, .classType, .interface, .string, .any, .script]

def Category.name : Category → String
  | .void => "Void"
  | .primitive => "Primitive"
  | .struct => "Struct"
  | .classType => "Class"
  | .interface => "Interface"
  | .string => "String"
  | .any => "Any"
  | .script => "Script"

structure TypeRef where
  /-- The namespace, its segments separated by `.` or `::`. It is of no account in a nested type. -/
  space : String := ""
  name : String
  parent : Option TypeRef := none
  args : List TypeRef := []
  category : Category
  declaredSealed : Bool := false
  deriving Repr, BEq

instance : Inhabited TypeRef := ⟨{ name := "", category := .void }⟩

def Kind.ofPrimitiveName? : String → Option Kind
  | "i32" | "Int32" | "System.Int32" => some .int32
  | "i64" | "Int64" | "System.Int64" => some .int64
  | "i16" | "Int16" | "System.Int16" => some .int16
  | "bool" | "Boolean" | "System.Boolean" => some .bool
  | "u16" | "UInt16" | "System.UInt16" => some .uint16
  | "f32" | "Single" | "System.Single" => some .float32
  | "f64" | "Double" | "System.Double" => some .float64
  | "u8" | "Byte" | "System.Byte" => some .byte
  | "i8" | "SByte" | "System.SByte" => some .sbyte
  | "u32" | "UInt32" | "System.UInt32" => some .uint32
  | "char" | "Char" | "System.Char" => some .char
  | "u64" | "UInt64" | "System.UInt64" => some .uint64
  | _ => none

namespace TypeRef

/-! ## Making type references -/

def primitive (name : String) : TypeRef := { name, category := .primitive }

def void : TypeRef := { name := "()", category := .void }

def string : TypeRef := { name := "String", category := .string }

def any : TypeRef := { name := "object", category := .any }

def script : TypeRef := { name := "ScriptInstance", category := .script }

def ofClass (space name : String) : TypeRef := { space, name, category := .classType }

def ofInterface (space name : String) : TypeRef := { space, name, category := .interface }

def ofStruct (space name : String) : TypeRef := { space, name, category := .struct }

def nestedIn (ty parent : TypeRef) : TypeRef :=
  { ty with space := parent.space, parent := some parent }

def withArgs (ty : TypeRef) (args : List TypeRef) : TypeRef := { ty with args }

def asSealed (ty : TypeRef) : TypeRef := { ty with declaredSealed := true }

/-! ## Classification -/

def isVoid (ty : TypeRef) : Bool := ty.category == .void

def isPrimitive (ty : TypeRef) : Bool := ty.category == .primitive

def isValueType (ty : TypeRef) : Bool := ty.category == .primitive || ty.category == .struct

def isSealed (ty : TypeRef) : Bool :=
  ty.declaredSealed || ty.isValueType || ty.category == .string || ty.category == .void

def kind? (ty : TypeRef) : Option Kind :=
  match ty.category with
  | .void => none
  | .primitive => Kind.ofPrimitiveName? ty.name
  | _ => some .object

def coercionMode? (ty : TypeRef) : Option CoercionMode :=
  match ty.category with
  | .void | .primitive => none
  | .any => some .any
  | .script => some .script
  | .string => some .string
  | .classType | .interface => some .classType
  | .struct => some .struct

end TypeRef

end NativeBridge
