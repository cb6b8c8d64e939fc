import NativeBridge.Demo.Types
import NativeBridge.Proofs.Planning.Accounts

/-!
# Methods that have a plan

Whether a method has a plan depends on its name, on the number of its parameters, and on the types
that would cross the boundary; its ordinal is of no account. The name is looked at first.

* `Plan.dispatch?_eq_ok_iff`, `Plan.dispatch?_eq_error_iff`: the call that a name asks for, and the
  fault of a name that asks for none.
* `TypeRef.isSome_kind?_iff`: the types whose values can cross the boundary.
* `Plan.build_accepts`: which methods have a plan, and why the others have none.
-/

namespace NativeBridge

/-! ## Types that cross the boundary -/

namespace Kind

def metadataName : Kind → String
  | .bool => "Boolean"
  | .float32 => "Single"
  | .float64 => "Double"
  | kind => kind.name

def spellings (kind : Kind) : List String :=
  [kind.typeName, kind.metadataName, "System." ++ kind.metadataName]

theorem ofPrimitiveName?_eq_some_iff {name : String} {kind : Kind} :
    ofPrimitiveName? name = some kind ↔ kind.isNumeric = true ∧ name ∈ kind.spellings := by
  constructor
  · intro known
    rw [ofPrimitiveName?.eq_def] at known
    split at known <;> cases known <;> decide
  · rintro ⟨numeric, spelled⟩
    simp only [spellings, List.mem_cons, List.not_mem_nil, or_false] at spelled
    cases kind with
    | object => cases numeric
    | _ => rcases spelled with rfl | rfl | rfl <;> rfl

end Kind

namespace TypeRef

/-- Values of the type can cross the boundary: void has none, and a primitive needs a known name. -/
def Crosses (type : TypeRef) : Prop :=
  type.category ≠ .void ∧
    (type.category = .primitive → ∃ kind : Kind, kind.isNumeric = true ∧ type.name ∈ kind.spellings)

theorem isSome_kind?_iff {type : TypeRef} : type.kind?.isSome = true ↔ type.Crosses := by
  simp only [Crosses, ← Kind.ofPrimitiveName?_eq_some_iff, kind?]
  cases type.category <;> simp [Option.isSome_iff_exists]

instance (type : TypeRef) : Decidable type.Crosses := decidable_of_iff _ isSome_kind?_iff

end TypeRef

/-! ## Calls that names ask for -/

namespace Method

variable {method : Method} {declaring : TypeRef} {dispatch : Dispatch}

/-- The call that a method asks for by its name and the number of its parameters. -/
inductive AsksFor (method : Method) : Dispatch → Prop where
  | static : method.specialName = false → method.isStatic = true →
      AsksFor method (.static method.name)
  | onInstance : method.specialName = false → method.isStatic = false →
      AsksFor method (.onInstance method.name)
  | get {property : String} : method.IsSpecial "get" property → method.params.length = 0 →
      AsksFor method (.propertyGet property false)
  | getEntry {property : String} : method.IsSpecial "get" property → method.params.length = 1 →
      AsksFor method (.propertyGet property true)
  | set {property : String} : method.IsSpecial "set" property → method.params.length = 1 →
      AsksFor method (.propertySet property false)
  | setEntry {property : String} : method.IsSpecial "set" property → method.params.length = 2 →
      AsksFor method (.propertySet property true)
  | operator {op : Operator} : method.IsSpecial "op" op.name → method.isStatic = true →
      method.params.length = op.arity → AsksFor method (.operator op)

inductive Misnamed (declaring : TypeRef) (method : Method) : BindingError → Prop where
  | get {property : String} : method.IsSpecial "get" property → 1 < method.params.length →
      Misnamed declaring method
        (.invalidIndexer method.name declaring.reference method.params.length)
  | set {property : String} : method.IsSpecial "set" property →
      method.params.length = 0 ∨ 2 < method.params.length →
      Misnamed declaring method
        (.invalidIndexer method.name declaring.reference method.params.length)
  | operator {word : String} : method.IsSpecial "op" word → method.isStatic = true →
      (∀ op : Operator, op.name = word → op.arity ≠ method.params.length) →
      Misnamed declaring method (.unsupportedOperator method.name declaring.reference)
  | other : method.specialName = true →
      (∀ word rest, method.IsSpecial word rest →
        word ≠ "get" ∧ word ≠ "set" ∧ (word = "op" → method.isStatic = false)) →
      Misnamed declaring method (.unsupportedSpecialName method.name declaring.reference)

theorem specialParts?_of_isSpecial {word rest : String} (special : method.IsSpecial word rest)
    (unmarked : '_' ∉ word.toList) : method.specialParts? = some (word, rest) :=
  specialParts?_eq_some_iff.mpr ⟨special, unmarked⟩

end Method

namespace Operator

theorem ofName?_eq_some_iff {name : String} {op : Operator} :
    ofName? name = some op ↔ op.name = name := by
  constructor
  · intro found
    simpa using List.find?_some found
  · rintro rfl
    cases op <;> rfl

end Operator

namespace Plan

variable {method : Method} {declaring : TypeRef} {dispatch : Dispatch} {error : BindingError}

theorem dispatch?_of_asksFor (asks : method.AsksFor dispatch) (declaring : TypeRef) :
    dispatch? declaring method = .ok dispatch := by
  cases asks with
  | static ordinary static => simp [dispatch?, ordinary, static]
  | onInstance ordinary received => simp [dispatch?, ordinary, received]
  | get special count | getEntry special count | set special count | setEntry special count =>
      simp [dispatch?, special.marked, Method.specialParts?_of_isSpecial special (by decide), count]
  | operator special static count =>
      simp [dispatch?, special.marked, Method.specialParts?_of_isSpecial special (by decide), static,
        Operator.ofName?_eq_some_iff.mpr rfl, count]

theorem dispatch?_of_misnamed (misnamed : method.Misnamed declaring error) :
    dispatch? declaring method = .error error := by
  cases misnamed with
  | get special count =>
      simp [dispatch?, special.marked, Method.specialParts?_of_isSpecial special (by decide), count]
  | set special count =>
      simp only [dispatch?, special.marked, Method.specialParts?_of_isSpecial special (by decide),
        if_pos count]
      rfl
  | @operator word special static unknown =>
      simp only [dispatch?, special.marked,
        Method.specialParts?_of_isSpecial special (by decide), static]
      cases found : Operator.ofName? word with
      | none => rfl
      | some op => simp [unknown op (Operator.ofName?_eq_some_iff.mp found)]
  | other marked unknown =>
      have split {word rest : String} (parts : method.specialParts? = some (word, rest)) :=
        unknown word rest (Method.specialParts?_eq_some_iff.mp parts).1
      simp only [dispatch?, marked, Bool.not_true, Bool.false_eq_true, if_false]
      split
      · exact absurd rfl (split ‹_›).1
      · exact absurd rfl (split ‹_›).2.1
      · rw [(split ‹_›).2.2 rfl]
        rfl
      · rfl

theorem asksFor_or_misnamed (declaring : TypeRef) (method : Method) :
    (∃ dispatch, method.AsksFor dispatch) ∨ ∃ error, method.Misnamed declaring error := by
  cases marked : method.specialName with
  | false =>
      cases static : method.isStatic with
      | true => exact .inl ⟨_, .static marked static⟩
      | false => exact .inl ⟨_, .onInstance marked static⟩
  | true =>
      by_cases get : ∃ property, method.IsSpecial "get" property
      · obtain ⟨property, special⟩ := get
        match count : method.params.length with
        | 0 => exact .inl ⟨_, .get special count⟩
        | 1 => exact .inl ⟨_, .getEntry special count⟩
        | more + 2 => exact .inr ⟨_, .get special (by omega)⟩
      by_cases set : ∃ property, method.IsSpecial "set" property
      · obtain ⟨property, special⟩ := set
        match count : method.params.length with
        | 0 => exact .inr ⟨_, .set special (.inl count)⟩
        | 1 => exact .inl ⟨_, .set special count⟩
        | 2 => exact .inl ⟨_, .setEntry special count⟩
        | more + 3 => exact .inr ⟨_, .set special (by omega)⟩
      by_cases operator : method.isStatic = true ∧ ∃ word, method.IsSpecial "op" word
      · obtain ⟨static, word, special⟩ := operator
        by_cases known : ∃ op : Operator, op.name = word ∧ op.arity = method.params.length
        · obtain ⟨op, rfl, count⟩ := known
          exact .inl ⟨_, .operator special static count.symm⟩
        · exact .inr ⟨_, .operator special static fun op named count => known ⟨op, named, count⟩⟩
      · refine .inr ⟨_, .other marked ?_⟩
        intro word rest special
        refine ⟨?_, ?_, ?_⟩
        · rintro rfl
          exact get ⟨rest, special⟩
        · rintro rfl
          exact set ⟨rest, special⟩
        · rintro rfl
          exact Bool.eq_false_iff.mpr fun static => operator ⟨static, rest, special⟩

theorem dispatch?_eq_ok_iff :
    dispatch? declaring method = .ok dispatch ↔ method.AsksFor dispatch := by
  refine ⟨?_, fun asks => dispatch?_of_asksFor asks declaring⟩
  intro found
  rcases asksFor_or_misnamed declaring method with ⟨other, asks⟩ | ⟨error, misnamed⟩
  · cases found.symm.trans (dispatch?_of_asksFor asks declaring)
    exact asks
  · cases found.symm.trans (dispatch?_of_misnamed misnamed)

theorem dispatch?_eq_error_iff :
    dispatch? declaring method = .error error ↔ method.Misnamed declaring error := by
  refine ⟨?_, dispatch?_of_misnamed⟩
  intro failed
  rcases asksFor_or_misnamed declaring method with ⟨dispatch, asks⟩ | ⟨other, misnamed⟩
  · cases failed.symm.trans (dispatch?_of_asksFor asks declaring)
  · cases failed.symm.trans (dispatch?_of_misnamed misnamed)
    exact misnamed

/-! ## Plans -/

def crossing (declaring : TypeRef) (method : Method) : List TypeRef :=
  (method.params.map (·.type)).reverse ++ (if method.isStatic then [] else [declaring]) ++
    (if method.resultType.isVoid then [] else [method.resultType])

def notCrossing (declaring : TypeRef) (method : Method) (type : TypeRef) : BindingError :=
  .unsupportedKind type.reference (declaring.reference ++ "::" ++ method.name)

/-- A stage of planning that looks at some types: it fails over the first one that cannot cross the
boundary, and over nothing else. -/
def LooksAt {α : Type} (declaring : TypeRef) (method : Method) (types : List TypeRef)
    (stage : Except BindingError α) : Prop :=
  match types.find? (¬ TypeRef.Crosses ·) with
  | none => ∃ result, stage = .ok result
  | some type => stage = .error (notCrossing declaring method type)

section Stages

variable {α β : Type} {types others : List TypeRef} {stage : Except BindingError α}
  {next : α → Except BindingError β}

theorem looksAt_pure (result : α) :
    LooksAt declaring method [] (pure result : Except BindingError α) := ⟨result, rfl⟩

theorem LooksAt.bind (first : LooksAt declaring method types stage)
    (rest : ∀ result, LooksAt declaring method others (next result)) :
    LooksAt declaring method (types ++ others) (stage >>= next) := by
  rw [LooksAt] at first ⊢
  rw [List.find?_append]
  cases found : types.find? (¬ TypeRef.Crosses ·) with
  | some type =>
      rw [found] at first
      rw [first]
      rfl
  | none =>
      rw [found] at first
      obtain ⟨result, taken⟩ := first
      rw [taken]
      exact rest result

theorem LooksAt.map (first : LooksAt declaring method types stage) (f : α → β) :
    LooksAt declaring method types (f <$> stage) := by
  rw [← List.append_nil types, map_eq_pure_bind]
  exact first.bind fun result => looksAt_pure (f result)

theorem looksAt_kindIn (type : TypeRef) :
    LooksAt declaring method [type] (kindIn declaring method type) := by
  have crosses : type.kind?.isSome = true ↔ type.Crosses := TypeRef.isSome_kind?_iff
  rw [LooksAt, List.find?_singleton, kindIn]
  cases known : type.kind? with
  | none =>
      rw [known] at crosses
      rw [if_pos (by simpa using crosses)]
      rfl
  | some kind =>
      rw [known] at crosses
      rw [if_neg (by simpa using crosses)]
      exact ⟨kind, rfl⟩

end Stages

theorem looksAt_paramSteps (entries : List (Parameter × Nat)) :
    LooksAt declaring method (entries.map (·.1.type))
      (entries.mapM fun (param, index) => paramStep declaring method param index) := by
  induction entries with
  | nil => exact looksAt_pure []
  | cons entry rest ih =>
      rw [List.mapM_cons, List.map_cons, ← List.singleton_append]
      refine LooksAt.bind ?_ fun step => ?_
      · exact (looksAt_kindIn entry.1.type).map _
      · exact ih.map _

theorem looksAt_receiver :
    LooksAt declaring method (if method.isStatic then [] else [declaring])
      (if method.isStatic then pure none else some <$> receiverStep declaring method) := by
  cases method.isStatic with
  | true => exact looksAt_pure none
  | false => exact ((looksAt_kindIn declaring).map _).map some

theorem looksAt_returnStep :
    LooksAt declaring method (if method.resultType.isVoid then [] else [method.resultType])
      (returnStep declaring method) := by
  rw [returnStep]
  cases method.resultType.isVoid with
  | true => exact looksAt_pure ReturnStep.void
  | false =>
      refine (looksAt_kindIn method.resultType).bind fun kind => ?_
      cases kind <;> exact looksAt_pure _

theorem map_type_zipIdx (params : List Parameter) :
    params.zipIdx.reverse.map (·.1.type) = (params.map (·.type)).reverse := by
  have names : params.zipIdx.map (·.1.type) = (params.zipIdx.map Prod.fst).map (·.type) := by
    rw [List.map_map]
    rfl
  rw [List.map_reverse, names, List.zipIdx_map_fst]

theorem looksAt_build (asks : method.AsksFor dispatch) (ordinal : Nat) :
    LooksAt declaring method (crossing declaring method) (build declaring method ordinal) := by
  rw [crossing, List.append_assoc, ← map_type_zipIdx, build, dispatch?_of_asksFor asks]
  change LooksAt declaring method _ (List.mapM _ _ >>= _)
  refine (looksAt_paramSteps _).bind fun params => ?_
  have receiver : LooksAt declaring method _ _ := looksAt_receiver
  revert receiver
  cases method.isStatic with
  | true =>
      intro receiver
      exact receiver.bind fun receiver => looksAt_returnStep.map _
  | false =>
      intro receiver
      exact receiver.bind fun receiver => looksAt_returnStep.map _

theorem asksFor_of_build {ordinal : Nat} {plan : Plan}
    (built : build declaring method ordinal = .ok plan) : method.AsksFor plan.dispatch :=
  dispatch?_eq_ok_iff.mp (build_describes built).dispatch

/-- A method has a plan exactly if its name asks for a call and all its types can cross the
boundary. The call is the one that the name asks for. A fault of the name comes before one of the
types, and among these the first one counts. -/
theorem build_accepts (declaring : TypeRef) (method : Method) (ordinal : Nat) :
    ((∃ plan, build declaring method ordinal = .ok plan) ↔
      (∃ dispatch, method.AsksFor dispatch) ∧
        ∀ type ∈ crossing declaring method, type.Crosses) ∧
    (∀ plan, build declaring method ordinal = .ok plan →
      ∀ dispatch, method.AsksFor dispatch ↔ dispatch = plan.dispatch) ∧
    ∀ error, build declaring method ordinal = .error error →
      ((¬ ∃ dispatch, method.AsksFor dispatch) → method.Misnamed declaring error) ∧
      ((∃ dispatch, method.AsksFor dispatch) → ∃ type,
        (crossing declaring method).find? (¬ TypeRef.Crosses ·) = some type ∧
          error = notCrossing declaring method type) := by
  have looks {dispatch : Dispatch} (asks : method.AsksFor dispatch) :
      LooksAt declaring method (crossing declaring method) (build declaring method ordinal) :=
    looksAt_build asks ordinal
  have crosses : (∀ type ∈ crossing declaring method, type.Crosses) ↔
      (crossing declaring method).find? (¬ TypeRef.Crosses ·) = none := by
    simp
  refine ⟨⟨?_, ?_⟩, ?_, ?_⟩
  · rintro ⟨plan, built⟩
    have asks := asksFor_of_build built
    refine ⟨⟨_, asks⟩, crosses.mpr ?_⟩
    have stage := looks asks
    rw [LooksAt] at stage
    split at stage
    · assumption
    · cases built.symm.trans stage
  · rintro ⟨⟨dispatch, asks⟩, all⟩
    have stage := looks asks
    rw [LooksAt, crosses.mp all] at stage
    exact stage
  · intro plan built dispatch
    have asks := asksFor_of_build built
    constructor
    · intro other
      have same := (dispatch?_of_asksFor other declaring).symm.trans
        (dispatch?_of_asksFor asks declaring)
      exact Except.ok.inj same
    · rintro rfl
      exact asks
  · intro error failed
    refine ⟨?_, ?_⟩
    · intro unasked
      cases found : dispatch? declaring method with
      | ok dispatch => exact absurd ⟨dispatch, dispatch?_eq_ok_iff.mp found⟩ unasked
      | error other =>
          rw [build, found] at failed
          cases failed
          exact dispatch?_eq_error_iff.mp found
    · rintro ⟨dispatch, asks⟩
      have stage := looks asks
      rw [LooksAt] at stage
      split at stage
      · obtain ⟨plan, built⟩ := stage
        cases built.symm.trans failed
      · rename_i type first
        exact ⟨type, first, Except.error.inj (failed.symm.trans stage)⟩

def getItem : Method :=
  Demo.special { (Method.onInstance "get_Item").addParam "key" .string false with
    result := some .string }

def receivedPlus : Method :=
  Demo.special ((Method.onInstance "op_Addition").addParam "at" (.primitive "IntPtr") false)

def pointers : Method :=
  ((Method.static "Copy").addParam "from" (.primitive "IntPtr") false).addParam "to"
    (.primitive "UIntPtr") false

theorem getItem_accepted :
    (∃ plan, build Demo.table getItem 0 = .ok plan ∧
      Dispatch.propertyGet "Item" true = plan.dispatch) ∧
    receivedPlus.Misnamed Demo.vec2 (.unsupportedSpecialName "op_Addition" "demo::Vec2") ∧
    ∃ type, (crossing Demo.math pointers).find? (¬ TypeRef.Crosses ·) = some type ∧
      .unsupportedKind "UIntPtr" "demo::Math::Copy" = notCrossing Demo.math pointers type := by
  have item : getItem.AsksFor (.propertyGet "Item" true) := .getEntry ⟨rfl, rfl⟩ rfl
  refine ⟨?_, ?_, ?_⟩
  · obtain ⟨plan, built⟩ := (build_accepts Demo.table getItem 0).1.mpr ⟨⟨_, item⟩, by decide⟩
    exact ⟨plan, built, ((build_accepts Demo.table getItem 0).2.1 plan built _).mp item⟩
  · have unasked : ¬ ∃ dispatch, receivedPlus.AsksFor dispatch := by
      rintro ⟨dispatch, asks⟩
      cases dispatch?_of_asksFor asks Demo.vec2
    exact ((build_accepts Demo.vec2 receivedPlus 0).2.2 _ rfl).1 unasked
  · have ordinary : pointers.AsksFor (.static "Copy") := .static rfl rfl
    exact ((build_accepts Demo.math pointers 0).2.2 _ rfl).2 ⟨_, ordinary⟩

end Plan

end NativeBridge
