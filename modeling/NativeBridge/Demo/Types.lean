import NativeBridge.Catalogue.Catalogue

/-!
# The types of the demo

A class of static arithmetic, a vector that is passed by value, and a table of strings with an
indexer, as a catalogue describes them.
-/

namespace NativeBridge.Demo

def int : TypeRef := .primitive "i32"

def double : TypeRef := .primitive "f64"

def math : TypeRef := .ofClass "demo" "Math"

def vec2 : TypeRef := .ofStruct "demo" "Vec2"

def table : TypeRef := (TypeRef.ofClass "demo.collections" "Table\x601").withArgs [.string]

def special (method : Method) : Method := { method with specialName := true }

def mathDescriptor : TypeDescriptor :=
  (TypeDescriptor.ofType math)
    |>.addMethod { ((Method.static "Add").addParam "a" int false).addParam "b" int false with
        result := some int }
    |>.addMethod (((Method.static "Swap").addParam "a" double true).addParam "b" double true)

def vec2Descriptor : TypeDescriptor :=
  (TypeDescriptor.ofType vec2)
    |>.addMethod
        { special (((Method.static "op_Addition").addParam "a" vec2 false).addParam "b" vec2 false)
          with result := some vec2 }
    |>.addMethod { Method.onInstance "Length" with result := some (.primitive "f32") }

def tableDescriptor : TypeDescriptor :=
  (TypeDescriptor.ofType table)
    |>.addMethod { special ((Method.onInstance "get_Item").addParam "key" .string false) with
        result := some .string }
    |>.addMethod (special
        (((Method.onInstance "set_Item").addParam "key" .string false).addParam
          "value" .string false))
    |>.addProperty "Item" false

def catalogue : Catalogue := { types := [mathDescriptor, vec2Descriptor, tableDescriptor] }

end NativeBridge.Demo
