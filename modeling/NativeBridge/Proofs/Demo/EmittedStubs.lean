import NativeBridge.Demo.Api
import NativeBridge.Proofs.Planning.Generations
import NativeBridge.Proofs.Planning.PlanShape
import NativeBridge.Proofs.Source.Renderings

/-!
# Stubs of the demo

The plans of the demo and the stubs that are emitted for them.

* `stubs_made`: each plan has its stub.
* `isAccepted_generation`: the files that hold the stubs are accepted.
-/

namespace NativeBridge.Demo

open Source

/-! ## Plans and stubs -/

def planOf (type : TypeRef) (method : Option Method) (ordinal : Nat) : Plan :=
  match Plan.build type (method.getD default) ordinal with
  | .ok plan => plan
  | .error _ => default

def addPlan : Plan := planOf math mathDescriptor.methods[0]? 0

def swapPlan : Plan := planOf math mathDescriptor.methods[1]? 1

def plusPlan : Plan := planOf vec2 vec2Descriptor.methods[0]? 0

def lengthPlan : Plan := planOf vec2 vec2Descriptor.methods[1]? 1

def getItemPlan : Plan := planOf table tableDescriptor.methods[0]? 0

def setItemPlan : Plan := planOf table tableDescriptor.methods[1]? 1

def mathType : CodeType := { tokens := [.word "demo", .mark "::", .word "Math"] }

def vec2Type : CodeType := { tokens := [.word "demo", .mark "::", .word "Vec2"] }

def tableType : CodeType where
  tokens := [.word "demo", .mark "::", .word "collections", .mark "::", .word "Table", .mark "<",
    .word "String", .mark ">"]

def param (variableName : String) (offset : Nat) (kind : Kind) (form : NativeForm) (byRef : Bool)
    (coercion : Option Coercion) : Read :=
  { variableName, form, offset, kind, coercion, byRef, free := !byRef && kind == .object }

def vec2Form : NativeForm := .struct vec2Type vec2.reference

def addStub : Stub where
  name := { name := "Add_0", isRaw := false }
  signature := addPlan.signature
  window := 2
  reads := [param "b_1" 1 .int32 (.number .int32) false none,
    param "a_0" 2 .int32 (.number .int32) false none]
  receiver := none
  call := .static mathType { name := "Add", isRaw := false }
    [{ variableName := "a_0", byRef := false }, { variableName := "b_1", byRef := false }]
  result := some (.number .int32)
  writes := []
  ret := .value .int32

def swapStub : Stub where
  name := { name := "Swap_1", isRaw := false }
  signature := swapPlan.signature
  window := 2
  reads := [param "b_1" 1 .float64 (.number .float64) true none,
    param "a_0" 2 .float64 (.number .float64) true none]
  receiver := none
  call := .static mathType { name := "Swap", isRaw := false }
    [{ variableName := "a_0", byRef := true }, { variableName := "b_1", byRef := true }]
  result := none
  writes := [{ offset := 1, kind := .float64, variableName := "b_1", form := .number .float64 },
    { offset := 2, kind := .float64, variableName := "a_0", form := .number .float64 }]
  ret := .void

def plusStub : Stub where
  name := { name := "op_Addition_0", isRaw := false }
  signature := plusPlan.signature
  window := 2
  reads := [param "b_1" 1 .object vec2Form false (Plan.coercionFor vec2),
    param "a_0" 2 .object vec2Form false (Plan.coercionFor vec2)]
  receiver := none
  call := .binary .addition "a_0" "b_1"
  result := some vec2Form
  writes := []
  ret := .object false

def lengthStub : Stub where
  name := { name := "Length_1", isRaw := false }
  signature := lengthPlan.signature
  window := 1
  reads := []
  receiver := some {
    offset := 1, kind := .object, coercion := Plan.coercionFor vec2, resolve := true, free := true
    use := .borrowed vec2Type vec2.reference }
  call := .onSelf { name := "Length", isRaw := false } []
  result := some (.number .float32)
  writes := []
  ret := .value .float32

def tableRead (offset : Nat) : SelfRead where
  offset := offset
  kind := .object
  coercion := Plan.coercionFor table
  resolve := false
  free := true
  use := .borrowed tableType table.reference

def textParam (variableName : String) (offset : Nat) : Read :=
  param variableName offset .object .string false (Plan.coercionFor .string)

def getItemStub : Stub where
  name := { name := "get_Item_0", isRaw := false }
  signature := getItemPlan.signature
  window := 2
  reads := [textParam "key_0" 1]
  receiver := some (tableRead 2)
  call := .entry "key_0"
  result := some .string
  writes := []
  ret := .object false

def setItemStub : Stub where
  name := { name := "set_Item_1", isRaw := false }
  signature := setItemPlan.signature
  window := 3
  reads := [textParam "value_1" 1, textParam "key_0" 2]
  receiver := some (tableRead 3)
  call := .setEntry "key_0" "value_1"
  result := none
  writes := []
  ret := .void

theorem stubs_made :
    Stub.ofPlan addPlan = .ok addStub ∧ Stub.ofPlan swapPlan = .ok swapStub ∧
      Stub.ofPlan plusPlan = .ok plusStub ∧ Stub.ofPlan lengthPlan = .ok lengthStub ∧
        Stub.ofPlan getItemPlan = .ok getItemStub ∧ Stub.ofPlan setItemPlan = .ok setItemStub := by
  -- The parameters are sorted by their places, which is too much to evaluate.
  have add : Plan.build math (mathDescriptor.methods[0]?.getD default) 0 = .ok addPlan := rfl
  have swap : Plan.build math (mathDescriptor.methods[1]?.getD default) 1 = .ok swapPlan := rfl
  have plus : Plan.build vec2 (vec2Descriptor.methods[0]?.getD default) 0 = .ok plusPlan := rfl
  have length : Plan.build vec2 (vec2Descriptor.methods[1]?.getD default) 1 = .ok lengthPlan := rfl
  have getItem : Plan.build table (tableDescriptor.methods[0]?.getD default) 0 = .ok getItemPlan :=
    rfl
  have setItem : Plan.build table (tableDescriptor.methods[1]?.getD default) 1 = .ok setItemPlan :=
    rfl
  simp only [Stub.ofPlan, Call.ofDispatch, (Plan.build_built add).paramsInOrder_eq,
    (Plan.build_built swap).paramsInOrder_eq, (Plan.build_built plus).paramsInOrder_eq,
    (Plan.build_built length).paramsInOrder_eq, (Plan.build_built getItem).paramsInOrder_eq,
    (Plan.build_built setItem).paramsInOrder_eq]
  decide +kernel

/-! ## Modules -/

def generation : Generation := .ofDescriptions {} catalogue.types

theorem generate_eq : Generation.generate catalogue {} = .ok generation := by
  have accepted : Catalogue.ofTypes catalogue.types = .ok catalogue :=
    Catalogue.ofTypes_eq_ok_iff.mpr ⟨rfl, by decide⟩
  exact (Generation.generate_eq_ok_iff accepted).mpr ⟨by decide, by decide, rfl⟩

theorem map_plans : generation.modules.map (·.plans) =
    [[addPlan, swapPlan], [plusPlan, lengthPlan], [getItemPlan, setItemPlan]] := rfl

theorem map_stubsOf : generation.modules.map (fun self =>
      (self.reference, RenderedModule.stubsOf (RenderedModule.attempts self.plans))) =
    [(math.reference, [addStub, swapStub]), (vec2.reference, [plusStub, lengthStub]),
      (table.reference, [getItemStub, setItemStub])] := by
  have plans : generation.modules.map (fun self => (self.reference, self.plans)) =
      [(math.reference, [addPlan, swapPlan]), (vec2.reference, [plusPlan, lengthPlan]),
        (table.reference, [getItemPlan, setItemPlan])] := rfl
  have made := congrArg (List.map fun (reference, plans) =>
    (reference, RenderedModule.stubsOf (RenderedModule.attempts plans))) plans
  rw [List.map_map] at made
  refine made.trans ?_
  obtain ⟨add, swap, plus, length, getItem, setItem⟩ := stubs_made
  simp only [List.map, RenderedModule.attempts, RenderedModule.stubsOf, List.filterMap, add, swap,
    plus, length, getItem, setItem, Except.toOption]

def runtime : List Token := [.word "stackbind_sdk"]

def entries : List ModuleEntry :=
  generation.modules.map fun self => ⟨⟨self.ident, false⟩, self.ident⟩

theorem accepts_modules : ∀ self ∈ generation.modules, Grammar.accepts
    (RenderedModule.ofModule runtime self).file.codeFile.body.flatten = true := by
  have modules : ∀ module ∈ [(math.reference, [addStub, swapStub]),
      (vec2.reference, [plusStub, lengthStub]), (table.reference, [getItemStub, setItemStub])],
        Grammar.accepts (ModuleFile.codeFile
          ⟨"", module.1, "", runtime, module.2⟩).body.flatten = true := by
    decide +kernel
  rw [← map_stubsOf, List.forall_mem_map] at modules
  exact modules

theorem isAccepted_generation : (Rendering.withRuntime runtime generation entries).IsAccepted :=
  Rendering.isAccepted_iff.mpr ⟨List.forall_mem_map.mpr accepts_modules, by decide +kernel⟩

end NativeBridge.Demo
