import NativeBridge.Catalogue.Descriptor
import NativeBridge.Text.JsonReader

/-!
# Descriptions as JSON

Every description has a JSON form. The encoder writes all fields in a fixed order, save an absent
parent or result and an empty list of generic arguments. The decoder is more liberal: fields may
come in any order or be left out where they have a default, unknown fields are passed over, and a
description may also be given as the array of its fields.

A decoder takes the number of levels of nesting that it may still enter, and fails beyond that.
-/

namespace NativeBridge.Document

/-! ## Fields -/

def field? (members : List (String × Json)) (name : String) : Option (Option Json) :=
  match members.filter (·.1 == name) with
  | [] => some none
  | [(_, value)] => some (some value)
  | _ => none

/-- The named fields of a description, given as an object or as an array. -/
def fields? (names : List String) : Json → Option (List (Option Json))
  | .object members => names.mapM (field? members)
  | .array items =>
      if items.length ≤ names.length then
        some (items.map some ++ List.replicate (names.length - items.length) none)
      else none
  | _ => none

def required {α : Type} (decode : Json → Option α) : Option Json → Option α
  | some value => decode value
  | none => none

def optional {α : Type} (default : α) (decode : Json → Option α) : Option Json → Option α
  | some value => decode value
  | none => some default

def nullable {α : Type} (decode : Json → Option α) : Option Json → Option (Option α)
  | some .null | none => some none
  | some value => (decode value).map some

def bool? : Json → Option Bool
  | .bool b => some b
  | _ => none

def string? : Json → Option String
  | .string text => some text
  | _ => none

def count? : Json → Option Nat
  | .int n => if 0 ≤ n ∧ n < 0x10000000000000000 then some n.toNat else none
  | _ => none

def list? {α : Type} (decode : Nat → Json → Option α) : Nat → Json → Option (List α)
  | levels + 1, .array items => items.mapM (decode levels)
  | _, _ => none

/-- A word of a list of words, alone or as the only key of an object whose value is null. -/
def word? {α : Type} (words : List α) (name : α → String) (levels : Nat) : Json → Option α
  | .string text => words.find? (name · == text)
  | .object [(key, .null)] => if levels = 0 then none else words.find? (name · == key)
  | _ => none

/-! ## Type references -/

def typeRefOfFields? (nested : Json → Option TypeRef) (list : Json → Option (List TypeRef))
    (levels : Nat) : List (Option Json) → Option TypeRef
  | [space, name, parent, args, category, declaredSealed] => do
      some {
        space := ← optional "" string? space
        name := ← required string? name
        parent := ← nullable nested parent
        args := ← optional [] list args
        category := ← required (word? Category.all Category.name levels) category
        declaredSealed := ← optional false bool? declaredSealed }
  | _ => none

def typeRefFields : List String :=
  ["namespace", "name", "parent", "generic_args", "category", "sealed"]

def typeRef? : Nat → Json → Option TypeRef
  | 0, _ => none
  | levels + 1, json => do
      let args : Json → Option (List TypeRef) := fun json =>
        match levels with
        | 0 => none
        | below + 1 =>
            match json with
            | .array items => items.mapM (typeRef? below)
            | _ => none
      typeRefOfFields? (typeRef? levels) args levels (← fields? typeRefFields json)

mutual

def encodeTypeRef : TypeRef → Json
  | ⟨space, name, parent, args, category, declaredSealed⟩ =>
      .object ([("namespace", .string space), ("name", .string name)] ++ encodeParent parent ++
        (if args.isEmpty then [] else [("generic_args", .array (encodeTypeRefs args))]) ++
        [("category", .string category.name), ("sealed", .bool declaredSealed)])

def encodeParent : Option TypeRef → List (String × Json)
  | none => []
  | some parent => [("parent", encodeTypeRef parent)]

def encodeTypeRefs : List TypeRef → List Json
  | [] => []
  | ty :: rest => encodeTypeRef ty :: encodeTypeRefs rest

end

/-! ## Members -/

def parameter? : Nat → Json → Option Parameter
  | 0, _ => none
  | levels + 1, json => do
      match ← fields? ["name", "type", "by_ref", "position"] json with
      | [name, type, byRef, position] =>
          some {
            name := ← required string? name
            type := ← required (typeRef? levels) type
            byRef := ← optional false bool? byRef
            position := ← optional 0 count? position }
      | _ => none

def encodeParameter (param : Parameter) : Json :=
  .object [("name", .string param.name), ("type", encodeTypeRef param.type),
    ("by_ref", .bool param.byRef), ("position", .int param.position)]

def methodFields : List String :=
  ["name", "visibility", "is_static", "generic_params", "special_name", "obsolete", "params",
    "return_type"]

def method? : Nat → Json → Option Method
  | 0, _ => none
  | levels + 1, json => do
      match ← fields? methodFields json with
      | [name, visibility, isStatic, genericParams, specialName, obsolete, params, result] =>
          some {
            name := ← required string? name
            visibility :=
              ← optional .everyone (word? Visibility.all Visibility.name levels) visibility
            isStatic := ← optional false bool? isStatic
            genericParams := ← optional 0 count? genericParams
            specialName := ← optional false bool? specialName
            obsolete := ← optional false bool? obsolete
            params := ← optional [] (list? parameter? levels) params
            result := ← nullable (typeRef? levels) result }
      | _ => none

def encodeMethod (method : Method) : Json :=
  .object ([("name", .string method.name), ("visibility", .string method.visibility.name),
    ("is_static", .bool method.isStatic), ("generic_params", .int method.genericParams),
    ("special_name", .bool method.specialName), ("obsolete", .bool method.obsolete),
    ("params", .array (method.params.map encodeParameter))] ++
    match method.result with
    | some result => [("return_type", encodeTypeRef result)]
    | none => [])

def property? : Nat → Json → Option Property
  | 0, _ => none
  | _ + 1, json => do
      match ← fields? ["name", "obsolete"] json with
      | [name, obsolete] =>
          some { name := ← required string? name, obsolete := ← optional false bool? obsolete }
      | _ => none

def encodeProperty (property : Property) : Json :=
  .object [("name", .string property.name), ("obsolete", .bool property.obsolete)]

/-! ## Types and catalogues -/

def typeDescriptor? : Nat → Json → Option TypeDescriptor
  | 0, _ => none
  | levels + 1, json => do
      match ← fields? ["type", "methods", "properties", "obsolete"] json with
      | [type, methods, properties, obsolete] =>
          some {
            type := ← required (typeRef? levels) type
            methods := ← optional [] (list? method? levels) methods
            properties := ← optional [] (list? property? levels) properties
            obsolete := ← optional false bool? obsolete }
      | _ => none

def encodeTypeDescriptor (descriptor : TypeDescriptor) : Json :=
  .object [("type", encodeTypeRef descriptor.type),
    ("methods", .array (descriptor.methods.map encodeMethod)),
    ("properties", .array (descriptor.properties.map encodeProperty)),
    ("obsolete", .bool descriptor.obsolete)]

def types? : Nat → Json → Option (List TypeDescriptor)
  | 0, _ => none
  | levels + 1, json => do
      match ← fields? ["types"] json with
      | [types] => optional [] (list? typeDescriptor? levels) types
      | _ => none

def encodeTypes (types : List TypeDescriptor) : Json :=
  .object [("types", .array (types.map encodeTypeDescriptor))]

def maxLevels : Nat := 127

end NativeBridge.Document
