import NativeBridge.Text.Json

/-!
# Forms of JSON values

How counts, wide numbers, bits, lists and values that may be missing are put into JSON.
-/

namespace NativeBridge.Json

def ofNat (n : Nat) : Json := .int n

def wide (n : Int) : Json := .string (toString n)

def bits (width n : Nat) : Json := .string (String.ofList (Text.paddedHex width n))

def optional {α : Type} (f : α → Json) : Option α → Json
  | some a => f a
  | none => .null

def list {α : Type} (f : α → Json) (items : List α) : Json := .array (items.map f)

def single (key : String) (value : Json) : Json := .object [(key, value)]

def member? (json : Json) (key : String) : Option Json :=
  match json with
  | .object members => members.lookup key
  | _ => none

end NativeBridge.Json
