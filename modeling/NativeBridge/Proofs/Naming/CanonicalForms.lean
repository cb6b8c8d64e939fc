import NativeBridge.Proofs.Naming.Layout

/-!
# Canonical forms of types

The canonical form of a type is what both of its names are made from: the namespace of the outermost
type, and at every level of nesting a canonical name and the forms of the generic arguments. The
marks of an identifier do not tell where the argument list of an argument starts, so a form can be
read back from an identifier as long as no argument has arguments of its own.

* `TypeRef.layout_form`: the layout of a type is that of its form.
* `FormReader.read_shallow`: the marks of a shallow type are read back as its form.
* `TypeRef.ident_eq_iff_form_eq`: identifiers of shallow types are equal exactly for equal forms.
-/

namespace NativeBridge

inductive TypeForm where
  | root (segments : List (List Char)) (name : List Char) (args : List TypeForm)
  | nested (parent : TypeForm) (name : List Char) (args : List TypeForm)
  deriving Repr

namespace TypeRef

mutual

def form : TypeRef → TypeForm
  | ⟨space, name, parent, args, category, _⟩ =>
      levelForm space (canonicalChars category name args.length) (argumentForms args) parent

def levelForm (space : String) (name : List Char) (args : List TypeForm) :
    Option TypeRef → TypeForm
  | some parent => .nested (form parent) name args
  | none => .root (namespaceSegments space) name args

def argumentForms : List TypeRef → List TypeForm
  | [] => []
  | arg :: rest => form arg :: argumentForms rest

end

inductive EveryLevel (holds : TypeRef → Prop) : TypeRef → Prop
  | level {ty : TypeRef} : holds ty →
      (∀ parent, ty.parent = some parent → EveryLevel holds parent) → EveryLevel holds ty

def IsBare (ty : TypeRef) : Prop := ty.EveryLevel fun level => level.args = []

/-- Whether no generic argument has generic arguments of its own. -/
def IsShallow (ty : TypeRef) : Prop := ty.EveryLevel fun level => ∀ arg ∈ level.args, arg.IsBare

end TypeRef

/-! ## From forms to layouts -/

namespace TypeForm

mutual

def layout : TypeForm → List Mark
  | .root segments name args =>
      (segments.flatMap fun segment => segment.map .char ++ [.separator]) ++
        (name.map .char ++ argumentLayouts args)
  | .nested parent name args =>
      layout parent ++ [.nested] ++ (name.map .char ++ argumentLayouts args)

def argumentLayouts : List TypeForm → List Mark
  | [] => []
  | arg :: rest => .argument true :: (layout arg ++ furtherLayouts rest)

def furtherLayouts : List TypeForm → List Mark
  | [] => [.close]
  | arg :: rest => .argument false :: (layout arg ++ furtherLayouts rest)

end

end TypeForm

namespace TypeRef

mutual

theorem layout_form : ∀ ty : TypeRef, ty.form.layout = ty.layout
  | ⟨space, name, none, args, category, _⟩ => by
      rw [form, levelForm, TypeForm.layout, layout, enclosingLayout, argumentLayouts_forms]
  | ⟨space, name, some parent, args, category, _⟩ => by
      rw [form, levelForm, TypeForm.layout, layout, enclosingLayout, layout_form parent,
        argumentLayouts_forms]

theorem argumentLayouts_forms : ∀ args : List TypeRef,
    TypeForm.argumentLayouts (argumentForms args) = argumentLayouts args
  | [] => rfl
  | arg :: rest => by
      rw [argumentForms, TypeForm.argumentLayouts, argumentLayouts, layout_form arg,
        furtherLayouts_forms rest]

theorem furtherLayouts_forms : ∀ args : List TypeRef,
    TypeForm.furtherLayouts (argumentForms args) = furtherLayouts args
  | [] => rfl
  | arg :: rest => by
      rw [argumentForms, TypeForm.furtherLayouts, furtherLayouts, layout_form arg,
        furtherLayouts_forms rest]

end

end TypeRef

/-! ## From layouts to forms -/

namespace TypeForm

def empty : TypeForm := .root [] [] []

def addName (more : List Char) : TypeForm → TypeForm
  | .root segments name args => .root segments (name ++ more) args
  | .nested parent name args => .nested parent (name ++ more) args

def endSegment : TypeForm → TypeForm
  | .root segments name args => .root (segments ++ [name]) [] args
  | .nested parent name args => .nested parent name args

def addArgs (more : List TypeForm) : TypeForm → TypeForm
  | .root segments name args => .root segments name (args ++ more)
  | .nested parent name args => .nested parent name (args ++ more)

@[simp]
theorem addName_nil (form : TypeForm) : form.addName [] = form := by
  cases form <;> simp [addName]

@[simp]
theorem addName_addName (first second : List Char) (form : TypeForm) :
    (form.addName first).addName second = form.addName (first ++ second) := by
  cases form <;> simp [addName]

@[simp]
theorem addArgs_nil (form : TypeForm) : form.addArgs [] = form := by
  cases form <;> simp [addArgs]

@[simp]
theorem addArgs_addArgs (first second : List TypeForm) (form : TypeForm) :
    (form.addArgs first).addArgs second = form.addArgs (first ++ second) := by
  cases form <;> simp [addArgs]

end TypeForm

/-- The form read so far. While an argument is read, the form it belongs to waits. -/
structure FormReader where
  current : TypeForm := .empty
  outer : Option TypeForm := none

namespace FormReader

def step (reader : FormReader) : Mark → FormReader
  | .char c => { reader with current := reader.current.addName [c] }
  | .separator => { reader with current := reader.current.endSegment }
  | .nested => { reader with current := .nested reader.current [] [] }
  | .argument _ =>
      match reader.outer with
      | none => { outer := some reader.current }
      | some form => { outer := some (form.addArgs [reader.current]) }
  | .close =>
      match reader.outer with
      | none => reader
      | some form => { current := form.addArgs [reader.current] }

def read (reader : FormReader) (marks : List Mark) : FormReader := marks.foldl step reader

theorem read_nil (reader : FormReader) : reader.read [] = reader := rfl

theorem read_append (reader : FormReader) (first second : List Mark) :
    reader.read (first ++ second) = (reader.read first).read second :=
  List.foldl_append

theorem read_cons (reader : FormReader) (mark : Mark) (marks : List Mark) :
    reader.read (mark :: marks) = (reader.step mark).read marks :=
  rfl

theorem step_blur (reader : FormReader) (mark : Mark) :
    reader.step mark.blur = reader.step mark := by
  cases mark <;> rfl

theorem read_blur (reader : FormReader) (marks : List Mark) :
    reader.read (marks.map Mark.blur) = reader.read marks := by
  simp only [read, List.foldl_map, step_blur]

variable {outer : Option TypeForm}

theorem read_name (form : TypeForm) (name : List Char) :
    read ⟨form, outer⟩ (name.map .char) = ⟨form.addName name, outer⟩ := by
  induction name generalizing form with
  | nil => rw [TypeForm.addName_nil]; rfl
  | cons c name ih =>
      rw [List.map_cons, read_cons, step, ih, TypeForm.addName_addName, List.singleton_append]

theorem read_segments (before segments : List (List Char)) :
    read ⟨.root before [] [], outer⟩
        (segments.flatMap fun segment => segment.map .char ++ [.separator]) =
      ⟨.root (before ++ segments) [] [], outer⟩ := by
  induction segments generalizing before with
  | nil => rw [List.append_nil]; rfl
  | cons segment segments ih =>
      rw [List.flatMap_cons, read_append, read_append, read_name, read_cons, step]
      exact (ih (before ++ [segment])).trans (by rw [List.append_assoc, List.singleton_append])

def Recovers (outer : Option TypeForm) (ty : TypeRef) : Prop :=
  read { outer } ty.layout = ⟨ty.form, outer⟩

theorem read_level (space : String) (name : List Char) (parent : Option TypeRef)
    (enclosing : ∀ ty, parent = some ty → Recovers outer ty) :
    read { outer } (TypeRef.enclosingLayout space parent ++ name.map .char) =
      ⟨TypeRef.levelForm space name [] parent, outer⟩ := by
  cases parent with
  | none =>
      rw [TypeRef.enclosingLayout, read_append, TypeForm.empty, read_segments, read_name]
      rfl
  | some parent =>
      rw [TypeRef.enclosingLayout, read_append, read_append, enclosing parent rfl, read_cons, step,
        read_nil, read_name]
      rfl

theorem recovers_of_bare {ty : TypeRef} (bare : ty.IsBare) : Recovers outer ty := by
  induction bare with
  | @level ty noArgs enclosing ih =>
      obtain ⟨space, name, parent, args, category, declaredSealed⟩ := ty
      cases noArgs
      rw [Recovers, TypeRef.layout, TypeRef.argumentLayouts, List.append_nil, read_level _ _ _ ih]
      rfl

theorem read_furtherArguments (form : TypeForm) {args : List TypeRef}
    (bare : ∀ arg ∈ args, arg.IsBare) (current : TypeForm) :
    read ⟨current, some form⟩ (TypeRef.furtherLayouts args) =
      ⟨form.addArgs (current :: TypeRef.argumentForms args), none⟩ := by
  induction args generalizing form current with
  | nil => rfl
  | cons arg args ih =>
      obtain ⟨first, others⟩ := List.forall_mem_cons.mp bare
      rw [TypeRef.furtherLayouts, read_cons, step, read_append, recovers_of_bare first,
        ih _ others, TypeForm.addArgs_addArgs]
      rfl

theorem read_arguments (form : TypeForm) {args : List TypeRef}
    (bare : ∀ arg ∈ args, arg.IsBare) :
    read { current := form } (TypeRef.argumentLayouts args) =
      { current := form.addArgs (TypeRef.argumentForms args) } := by
  cases args with
  | nil =>
      rw [TypeRef.argumentForms, TypeForm.addArgs_nil]
      rfl
  | cons arg args =>
      obtain ⟨first, others⟩ := List.forall_mem_cons.mp bare
      rw [TypeRef.argumentLayouts, read_cons, step, read_append, recovers_of_bare first,
        read_furtherArguments form others]
      rfl

theorem recovers_of_shallow {ty : TypeRef} (shallow : ty.IsShallow) : Recovers none ty := by
  induction shallow with
  | @level ty bare enclosing ih =>
      obtain ⟨space, name, parent, args, category, declaredSealed⟩ := ty
      rw [Recovers, TypeRef.layout, ← List.append_assoc, read_append, read_level _ _ _ ih,
        read_arguments _ bare]
      cases parent <;> rfl

theorem read_shallow {ty : TypeRef} (shallow : ty.IsShallow) :
    (read {} (ty.layout.map Mark.blur)).current = ty.form := by
  rw [read_blur, recovers_of_shallow shallow]

end FormReader

/-! ## Identifiers of shallow types -/

namespace TypeRef

/-- The identifier of a type can be decoded when no argument of it has arguments: it determines the
nesting chain, the namespace of the outermost type, the canonical names and the arguments. -/
theorem ident_eq_iff_form_eq {t u : TypeRef} (first : t.IsShallow) (second : u.IsShallow) :
    t.ident = u.ident ↔ t.form = u.form := by
  rw [ident_eq_iff]
  constructor
  · intro same
    rw [← FormReader.read_shallow first, same, FormReader.read_shallow second]
  · intro same
    rw [← layout_form t, same, layout_form u]

def mapEntry (space key : String) : TypeRef :=
  { name := "Entry`1", args := [.string], category := .classType
    parent := some
      { space, name := "Map`2", args := [.primitive key, .ofClass "" "9_x"]
        category := .classType } }

theorem isShallow_mapEntry (space key : String) : (mapEntry space key).IsShallow := by
  have bare : ∀ {arg : TypeRef}, arg.parent = none → arg.args = [] → arg.IsBare := by
    intro arg root noArgs
    refine .level noArgs fun parent inside => ?_
    cases root ▸ inside
  refine .level ?_ fun parent inside => ?_
  · exact List.forall_mem_singleton.mpr (bare rfl rfl)
  · cases inside
    refine .level ?_ fun parent inside => by cases inside
    exact List.forall_mem_cons.mpr ⟨bare rfl rfl, List.forall_mem_singleton.mpr (bare rfl rfl)⟩

theorem ident_mapEntry :
    (mapEntry "a.b" "Int32").IsShallow ∧ (mapEntry "a::b" "i32").IsShallow ∧
      (mapEntry "a.b" "Int64").IsShallow ∧
      (mapEntry "a.b" "Int32").ident = (mapEntry "a::b" "i32").ident ∧
      (mapEntry "a.b" "Int32").ident ≠ (mapEntry "a.b" "Int64").ident := by
  have shallow := isShallow_mapEntry
  have same : (mapEntry "a.b" "Int32").form = (mapEntry "a::b" "i32").form := rfl
  have apart : (mapEntry "a.b" "Int32").form ≠ (mapEntry "a.b" "Int64").form := by
    intro same
    exact absurd (congrArg TypeForm.layout same) (by decide)
  exact ⟨shallow _ _, shallow _ _, shallow _ _,
    (ident_eq_iff_form_eq (shallow _ _) (shallow _ _)).mpr same,
    mt (ident_eq_iff_form_eq (shallow _ _) (shallow _ _)).mp apart⟩

end TypeRef

end NativeBridge
