import Mathlib.Data.List.Forall2
import NativeBridge.Catalogue.Descriptor
import NativeBridge.Proofs.Naming.CanonicalForms

/-!
# Paths of types

The path of a type is the list of the components that lead to it: the segments of the namespace,
then the levels of nesting, each with the paths of its generic arguments. As long as no name
contains a delimiter of references, a reference can be read in one way only.

* `TypeRef.referenceChars_eq_path`: the reference is written from the path.
* `series_unique`: a series of elements is read back if each of them is.
* `Component.IsPlain.readsBack`: so a component is read back if its arguments are.
* `TypeRef.reference_eq_iff_path_eq`: references of plain types are equal exactly for equal paths.
* `Method.signature_eq_iff_paths_eq`: so signatures are equal exactly if the parameters agree.
-/

namespace NativeBridge

inductive Component where
  | mk (name : List Char) (args : List (List Component))

namespace TypeRef

mutual

def path : TypeRef → List Component
  | ⟨space, name, parent, args, category, _⟩ =>
      enclosingPath space parent ++
        [.mk (canonicalChars category name args.length) (argumentPaths args)]

def enclosingPath (space : String) : Option TypeRef → List Component
  | some parent => path parent
  | none => (namespaceSegments space).map fun segment => .mk segment []

def argumentPaths : List TypeRef → List (List Component)
  | [] => []
  | arg :: rest => path arg :: argumentPaths rest

end

end TypeRef

/-! ## From paths to references -/

mutual

def Component.chars : Component → List Char
  | .mk name args => name ++ argumentChars args

def pathChars : List Component → List Char
  | [] => []
  | component :: rest => component.chars ++ furtherComponents rest

def furtherComponents : List Component → List Char
  | [] => []
  | component :: rest => ':' :: ':' :: (component.chars ++ furtherComponents rest)

def argumentChars : List (List Component) → List Char
  | [] => []
  | arg :: rest => '<' :: (pathChars arg ++ furtherArguments rest)

def furtherArguments : List (List Component) → List Char
  | [] => ['>']
  | arg :: rest => ',' :: ' ' :: (pathChars arg ++ furtherArguments rest)

end

def leadingChars (components : List Component) : List Char :=
  components.flatMap fun component => component.chars ++ [':', ':']

theorem pathChars_concat (before : List Component) (last : Component) :
    pathChars (before ++ [last]) = leadingChars before ++ last.chars := by
  have further : ∀ components : List Component,
      furtherComponents (components ++ [last]) =
        ':' :: ':' :: (leadingChars components ++ last.chars) := by
    intro components
    induction components with
    | nil => simp [furtherComponents, leadingChars]
    | cons component rest ih => simp [furtherComponents, leadingChars, ih]
  cases before with
  | nil => simp [pathChars, furtherComponents, leadingChars]
  | cons component rest => simp [pathChars, leadingChars, further]

namespace TypeRef

theorem leadingChars_path (ty : TypeRef) :
    leadingChars ty.path = pathChars ty.path ++ [':', ':'] := by
  cases ty
  rw [path, pathChars_concat, leadingChars, List.flatMap_append]
  simp [leadingChars]

mutual

theorem referenceChars_eq_path : ∀ ty : TypeRef, ty.referenceChars = pathChars ty.path
  | ⟨space, name, parent, args, category, _⟩ => by
      rw [referenceChars, path, pathChars_concat, Component.chars, ← enclosingReference_eq_path,
        ← argumentReferences_eq_path, List.append_assoc]

theorem enclosingReference_eq_path (space : String) : ∀ parent : Option TypeRef,
    enclosingReference space parent = leadingChars (enclosingPath space parent)
  | some parent => by
      rw [enclosingReference, enclosingPath, leadingChars_path, referenceChars_eq_path parent]
  | none => by
      rw [enclosingReference, enclosingPath, leadingChars, List.flatMap_map]
      simp only [Component.chars, argumentChars, List.append_nil]

theorem argumentReferences_eq_path : ∀ args : List TypeRef,
    argumentReferences args = argumentChars (argumentPaths args)
  | [] => rfl
  | arg :: rest => by
      rw [argumentReferences, argumentPaths, argumentChars, referenceChars_eq_path arg,
        furtherReferences_eq_path rest]
      rfl

theorem furtherReferences_eq_path : ∀ args : List TypeRef,
    furtherReferences args = furtherArguments (argumentPaths args)
  | [] => rfl
  | arg :: rest => by
      rw [furtherReferences, argumentPaths, furtherArguments, referenceChars_eq_path arg,
        furtherReferences_eq_path rest]
      rfl

end

end TypeRef

/-! ## Plain names -/

def delimiters : List Char := [':', '<', '>', ',', ' ']

def PlainName (name : List Char) : Prop := name ≠ [] ∧ ∀ c ∈ name, c ∉ delimiters

-- The characters of the name are tried, not all characters.
instance (name : List Char) : Decidable (PlainName name) :=
  have : Decidable (∀ c ∈ name, c ∉ delimiters) := List.decidableBAll _ name
  instDecidableAnd

inductive Component.IsPlain : Component → Prop
  | mk {name : List Char} {args : List (List Component)} : PlainName name →
      (∀ arg ∈ args, ∀ component ∈ arg, IsPlain component) → IsPlain (.mk name args)

/-- Whether all names in a type are plain: the segments of its namespace and its canonical name, and
those of the types that enclose it and of its generic arguments. -/
inductive TypeRef.IsPlain : TypeRef → Prop
  | level {ty : TypeRef} :
      (ty.parent = none → ∀ segment ∈ namespaceSegments ty.space, PlainName segment) →
      (∀ parent, ty.parent = some parent → IsPlain parent) → PlainName ty.canonicalName →
      (∀ arg ∈ ty.args, IsPlain arg) → IsPlain ty

theorem TypeRef.mem_argumentPaths {args : List TypeRef} {path : List Component} :
    path ∈ argumentPaths args ↔ ∃ arg ∈ args, arg.path = path := by
  induction args with
  | nil => simp [argumentPaths]
  | cons arg rest ih => simp [argumentPaths, ih, eq_comm]

theorem TypeRef.IsPlain.path {ty : TypeRef} (plain : ty.IsPlain) :
    ∀ component ∈ ty.path, component.IsPlain := by
  induction plain with
  | @level ty segments parents name args enclosing arguments =>
      obtain ⟨space, given, parent, generic, category, declaredSealed⟩ := ty
      rw [TypeRef.path]
      refine List.forall_mem_append.mpr ⟨?_, List.forall_mem_singleton.mpr (.mk name ?_)⟩
      · cases parent with
        | some parent => exact enclosing parent rfl
        | none =>
            rw [enclosingPath]
            refine List.forall_mem_map.mpr fun segment member => ?_
            exact .mk (segments rfl segment member) nofun
      · intro path listed
        obtain ⟨arg, member, rfl⟩ := mem_argumentPaths.mp listed
        exact arguments arg member

/-! ## Texts that are read in one way -/

def GoesOn (allowed text : List Char) : Prop := ∀ c ∈ text.head?, c ∈ allowed

section Reading

variable {α : Type} {write : α → List Char} {valid : α → Prop} {follow : List Char}
  {rest rest' : List Char}

theorem goesOn_cons {c : Char} (member : c ∈ follow) (text : List Char) :
    GoesOn follow (c :: text) := by
  intro other first
  obtain rfl := Option.mem_some_iff.mp first
  exact member

theorem GoesOn.mem_of_eq_cons {c : Char} {tail : List Char} (goesOn : GoesOn follow rest)
    (starts : rest = c :: tail) : c ∈ follow :=
  goesOn c (by rw [starts]; rfl)

theorem GoesOn.mono {allowed : List Char} (goesOn : GoesOn allowed rest)
    (subset : allowed ⊆ follow) : GoesOn follow rest :=
  fun c first => subset (goesOn c first)

/-- Whether a text that starts with what is written for an element determines the element and the
remaining text, as long as the latter goes on as expected. -/
def ReadsBack (write : α → List Char) (valid : α → Prop) (follow : List Char) (a : α) : Prop :=
  ∀ ⦃a' : α⦄ ⦃rest rest' : List Char⦄, valid a' → GoesOn follow rest → GoesOn follow rest' →
    write a ++ rest = write a' ++ rest' → a = a' ∧ rest = rest'

def series (write : α → List Char) (separator closing : List Char) : List α → List Char
  | [] => closing
  | a :: rest => separator ++ (write a ++ series write separator closing rest)

variable {mark : Char} {more closing others : List Char}

theorem goesOn_series (items : List α) (separates : mark ∈ follow)
    (ends : GoesOn others (closing ++ rest)) (subset : others ⊆ follow) :
    GoesOn follow (series write (mark :: more) closing items ++ rest) := by
  cases items with
  | nil => exact ends.mono subset
  | cons a items => exact goesOn_cons separates _

theorem series_unique {items items' : List α}
    (reads : ∀ a ∈ items, ReadsBack write valid follow a) (valids : ∀ a ∈ items', valid a)
    (separates : mark ∈ follow) (subset : others ⊆ follow) (apart : mark ∉ others)
    (same : series write (mark :: more) closing items ++ rest =
      series write (mark :: more) closing items' ++ rest')
    (ends : GoesOn others (closing ++ rest)) (ends' : GoesOn others (closing ++ rest')) :
    items = items' ∧ rest = rest' := by
  induction items generalizing items' with
  | nil =>
      cases items' with
      | nil => exact ⟨rfl, List.append_cancel_left same⟩
      | cons a' items' => exact absurd (ends.mem_of_eq_cons same) apart
  | cons a items ih =>
      cases items' with
      | nil => exact absurd (ends'.mem_of_eq_cons same.symm) apart
      | cons a' items' =>
          obtain ⟨first, others⟩ := List.forall_mem_cons.mp reads
          obtain ⟨first', others'⟩ := List.forall_mem_cons.mp valids
          simp only [series, List.append_assoc] at same
          obtain ⟨rfl, remaining⟩ := first first' (goesOn_series items separates ends subset)
            (goesOn_series items' separates ends' subset) (List.append_cancel_left same)
          obtain ⟨rfl, last⟩ := ih others others' remaining
          exact ⟨rfl, last⟩

theorem readsBack_name {name : List Char} (plain : ∀ c ∈ name, c ∉ delimiters) :
    ReadsBack id (fun name => ∀ c ∈ name, c ∉ delimiters) delimiters name := by
  intro name' rest rest' plain' goesOn goesOn' same
  induction name generalizing name' with
  | nil =>
      cases name' with
      | nil => exact ⟨rfl, same⟩
      | cons c name' => exact absurd (goesOn.mem_of_eq_cons same) (plain' c List.mem_cons_self)
  | cons c name ih =>
      cases name' with
      | nil => exact absurd (goesOn'.mem_of_eq_cons same.symm) (plain c List.mem_cons_self)
      | cons c' name' =>
          obtain ⟨rfl, remaining⟩ := List.cons.inj same
          obtain ⟨-, plain⟩ := List.forall_mem_cons.mp plain
          obtain ⟨-, plain'⟩ := List.forall_mem_cons.mp plain'
          obtain ⟨rfl, last⟩ := ih plain plain' remaining
          exact ⟨rfl, last⟩

end Reading

/-! ## Reading references back -/

theorem furtherComponents_eq (components : List Component) :
    furtherComponents components = series Component.chars [':', ':'] [] components := by
  induction components with
  | nil => rfl
  | cons component rest ih => rw [furtherComponents, series, ih]; rfl

theorem furtherArguments_eq (args : List (List Component)) :
    furtherArguments args = series pathChars [',', ' '] ['>'] args := by
  induction args with
  | nil => rfl
  | cons arg rest ih => rw [furtherArguments, series, ih]; rfl

def afterComponent : List Char := [':', ',', '>']

def afterPath : List Char := [',', '>']

theorem Component.IsPlain.chars_eq_cons {component : Component} (plain : component.IsPlain) :
    ∃ c tail, component.chars = c :: tail ∧ c ∉ delimiters := by
  obtain ⟨⟨nonempty, plain⟩, -⟩ := plain
  obtain ⟨c, tail, rfl⟩ := List.exists_cons_of_ne_nil nonempty
  exact ⟨c, _, rfl, plain c List.mem_cons_self⟩

def PlainPath (path : List Component) : Prop := ∀ component ∈ path, component.IsPlain

theorem readsBack_path {path : List Component} (plain : PlainPath path)
    (reads : ∀ component ∈ path,
      ReadsBack Component.chars Component.IsPlain afterComponent component) :
    ReadsBack pathChars PlainPath afterPath path := by
  -- No plain component can be taken for what follows the empty path.
  have apart : ∀ {component : Component} {path rest rest' : List _}, component.IsPlain →
      GoesOn afterPath rest → rest ≠ pathChars (component :: path) ++ rest' := by
    intro component path rest rest' plain goesOn same
    obtain ⟨c, tail, chars, notDelimiter⟩ := plain.chars_eq_cons
    rw [pathChars, chars] at same
    have delimiter : afterPath ⊆ delimiters := by decide
    exact notDelimiter (delimiter (goesOn.mem_of_eq_cons same))
  intro path' rest rest' plain' goesOn goesOn' same
  cases path with
  | nil =>
      cases path' with
      | nil => exact ⟨rfl, same⟩
      | cons component' path' => exact absurd same (apart (plain' _ List.mem_cons_self) goesOn)
  | cons component path =>
      cases path' with
      | nil => exact absurd same.symm (apart (plain _ List.mem_cons_self) goesOn')
      | cons component' path' =>
          obtain ⟨first, others⟩ := List.forall_mem_cons.mp reads
          obtain ⟨first', others'⟩ := List.forall_mem_cons.mp plain'
          have separates : ':' ∈ afterComponent := by decide
          have subset : afterPath ⊆ afterComponent := by decide
          simp only [pathChars, furtherComponents_eq, List.append_assoc] at same
          obtain ⟨rfl, remaining⟩ := first first' (goesOn_series path separates goesOn subset)
            (goesOn_series path' separates goesOn' subset) same
          obtain ⟨rfl, last⟩ := series_unique others others' separates subset (by decide) remaining
            goesOn goesOn'
          exact ⟨rfl, last⟩

theorem readsBack_arguments {args : List (List Component)}
    (reads : ∀ arg ∈ args, ReadsBack pathChars PlainPath afterPath arg) :
    ReadsBack argumentChars (fun args => ∀ arg ∈ args, PlainPath arg) afterComponent args := by
  intro args' rest rest' plain' goesOn goesOn' same
  have opens : '<' ∉ afterComponent := by decide
  cases args with
  | nil =>
      cases args' with
      | nil => exact ⟨rfl, same⟩
      | cons arg' args' => exact absurd (goesOn.mem_of_eq_cons same) opens
  | cons arg args =>
      cases args' with
      | nil => exact absurd (goesOn'.mem_of_eq_cons same.symm) opens
      | cons arg' args' =>
          obtain ⟨first, others⟩ := List.forall_mem_cons.mp reads
          obtain ⟨first', others'⟩ := List.forall_mem_cons.mp plain'
          have separates : ',' ∈ afterPath := by decide
          have subset : ['>'] ⊆ afterPath := by decide
          have ends : ∀ rest, GoesOn ['>'] (['>'] ++ rest) := goesOn_cons (by decide)
          simp only [argumentChars, furtherArguments_eq, List.cons_append, List.append_assoc,
            List.cons.injEq, true_and] at same
          obtain ⟨rfl, remaining⟩ := first first' (goesOn_series args separates (ends _) subset)
            (goesOn_series args' separates (ends _) subset) same
          obtain ⟨rfl, last⟩ := series_unique others others' separates subset (by decide) remaining
            (ends _) (ends _)
          exact ⟨rfl, last⟩

theorem goesOn_argumentChars (args : List (List Component)) {rest : List Char}
    (goesOn : GoesOn afterComponent rest) : GoesOn delimiters (argumentChars args ++ rest) := by
  cases args with
  | nil => exact goesOn.mono (by decide)
  | cons arg args => exact goesOn_cons (by decide) _

theorem Component.IsPlain.readsBack {component : Component} (plain : component.IsPlain) :
    ReadsBack chars IsPlain afterComponent component := by
  induction plain with
  | @mk name args plain plainArgs ih =>
      intro component' rest rest' plain' goesOn goesOn' same
      obtain @⟨name', args', plain', plainArgs'⟩ := plain'
      simp only [chars, List.append_assoc] at same
      obtain ⟨rfl, remaining⟩ := readsBack_name plain.2 plain'.2 (goesOn_argumentChars args goesOn)
        (goesOn_argumentChars args' goesOn') same
      have reads : ∀ arg ∈ args, ReadsBack pathChars PlainPath afterPath arg :=
        fun arg member => readsBack_path (plainArgs arg member) (ih arg member)
      obtain ⟨rfl, last⟩ := readsBack_arguments reads plainArgs' goesOn goesOn' remaining
      exact ⟨rfl, last⟩

theorem pathChars_injective {path path' : List Component} (plain : PlainPath path)
    (plain' : PlainPath path') (same : pathChars path = pathChars path') : path = path' := by
  have reads := readsBack_path plain fun component member => (plain component member).readsBack
  have ends : GoesOn afterPath [] := nofun
  exact (reads plain' ends ends (congrArg (· ++ []) same)).1

theorem TypeRef.reference_eq_iff_path_eq {t u : TypeRef} (plain : t.IsPlain) (plain' : u.IsPlain) :
    t.reference = u.reference ↔ t.path = u.path := by
  rw [reference, reference, String.ofList_inj, referenceChars_eq_path, referenceChars_eq_path]
  constructor
  · exact pathChars_injective plain.path plain'.path
  · exact congrArg pathChars

/-! ## Signatures -/

namespace Parameter

def Agrees (param other : Parameter) : Prop :=
  param.byRef = other.byRef ∧ param.type.path = other.type.path

def key (param : Parameter) : ParamKey :=
  { typeName := param.type.reference, byRef := param.byRef }

theorem key_eq_iff {param other : Parameter} (plain : param.type.IsPlain)
    (plain' : other.type.IsPlain) : param.key = other.key ↔ param.Agrees other := by
  rw [key, key, ParamKey.mk.injEq, TypeRef.reference_eq_iff_path_eq plain plain']
  exact and_comm

theorem map_key_eq_iff {params others : List Parameter}
    (plain : ∀ param ∈ params, param.type.IsPlain) (plain' : ∀ param ∈ others, param.type.IsPlain) :
    params.map key = others.map key ↔ List.Forall₂ Agrees params others := by
  induction params generalizing others with
  | nil => cases others <;> simp
  | cons param params ih =>
      cases others with
      | nil => simp
      | cons other others =>
          obtain ⟨first, plain⟩ := List.forall_mem_cons.mp plain
          obtain ⟨first', plain'⟩ := List.forall_mem_cons.mp plain'
          rw [List.map_cons, List.map_cons, List.cons.injEq, List.forall₂_cons,
            key_eq_iff first first', ih plain plain']

end Parameter

namespace Method

/-- Among plain types a reference stands for one path. So two methods of one name, declared on the
same path, have the same signature exactly if their parameters agree one by one. -/
theorem signature_eq_iff_paths_eq :
    (∀ t u : TypeRef, t.IsPlain → u.IsPlain → (t.reference = u.reference ↔ t.path = u.path)) ∧
      ∀ (t u : TypeRef) (m n : Method), t.path = u.path → m.name = n.name →
        (∀ param ∈ m.params, param.type.IsPlain) → (∀ param ∈ n.params, param.type.IsPlain) →
        (m.signature t = n.signature u ↔ List.Forall₂ Parameter.Agrees m.params n.params) := by
  refine ⟨fun t u plain plain' => TypeRef.reference_eq_iff_path_eq plain plain', ?_⟩
  intro t u m n declaring name plain plain'
  have reference : t.reference = u.reference := by
    rw [TypeRef.reference, TypeRef.reference, TypeRef.referenceChars_eq_path, declaring,
      ← TypeRef.referenceChars_eq_path]
  rw [signature, signature, Signature.mk.injEq, ← Parameter.map_key_eq_iff plain plain']
  simp only [reference, name, true_and]
  rfl

theorem isPlain_mapEntry {space key : String}
    (segments : ∀ segment ∈ namespaceSegments space, PlainName segment)
    (plain : PlainName (canonicalChars .primitive key 0)) :
    (TypeRef.mapEntry space key).IsPlain := by
  have leaf : ∀ {ty : TypeRef}, ty.parent = none → ty.args = [] → ty.space = "" →
      PlainName ty.canonicalName → ty.IsPlain := by
    intro ty root noArgs noSpace name
    refine .level (fun _ => ?_) (fun parent inside => ?_) name (fun arg member => ?_)
    · rw [noSpace]
      exact nofun
    · cases root ▸ inside
    · cases noArgs ▸ member
  have mapName : PlainName (canonicalChars .classType "Map`2" 2) := by decide
  have entryName : PlainName (canonicalChars .classType "Entry`1" 1) := by decide
  refine .level nofun (fun map inside => ?_) entryName ?_
  · cases inside
    refine .level (fun _ => segments) nofun mapName ?_
    exact List.forall_mem_cons.mpr ⟨leaf rfl rfl rfl plain,
      List.forall_mem_singleton.mpr (leaf rfl rfl rfl (by decide))⟩
  · exact List.forall_mem_singleton.mpr (leaf rfl rfl rfl (by decide))

def putting (space key : String) (byRef : Bool) : Method :=
  (static "Put").addParam "entry" (.mapEntry space key) byRef

theorem signature_putting :
    let maps := TypeRef.ofClass "" "Maps"
    let entry := putting "a.b" "Int32" false
    entry.signature maps = (putting "a::b" "i32" false).signature maps ∧
      entry.signature maps ≠ (putting "a.b" "Int64" false).signature maps ∧
      entry.signature maps ≠ (putting "a.b" "Int32" true).signature maps ∧
      (TypeRef.mapEntry "a.b" "Int32").reference = (TypeRef.mapEntry "a::b" "i32").reference := by
  intro maps entry
  have plain : (TypeRef.mapEntry "a.b" "Int32").IsPlain :=
    isPlain_mapEntry (by decide) (by decide)
  have respelled : (TypeRef.mapEntry "a::b" "i32").IsPlain :=
    isPlain_mapEntry (by decide) (by decide)
  have otherKey : (TypeRef.mapEntry "a.b" "Int64").IsPlain :=
    isPlain_mapEntry (by decide) (by decide)
  have only : ∀ {space key : String} (byRef : Bool), (TypeRef.mapEntry space key).IsPlain →
      ∀ param ∈ (putting space key byRef).params, param.type.IsPlain :=
    fun byRef plain => List.forall_mem_singleton.mpr plain
  obtain ⟨references, signatures⟩ := signature_eq_iff_paths_eq
  have compared : ∀ {space key : String} (byRef : Bool), (TypeRef.mapEntry space key).IsPlain →
      (entry.signature maps = (putting space key byRef).signature maps ↔
        List.Forall₂ Parameter.Agrees entry.params (putting space key byRef).params) :=
    fun byRef plain' => signatures maps maps _ _ rfl rfl (only false plain) (only byRef plain')
  refine ⟨(compared false respelled).mpr (.cons ⟨rfl, rfl⟩ .nil), ?_, ?_,
    (references _ _ plain respelled).mpr rfl⟩
  · intro same
    have paths := (List.forall₂_cons.mp ((compared false otherKey).mp same)).1.2
    exact absurd (congrArg pathChars paths) (by decide)
  · intro same
    have passing := (List.forall₂_cons.mp ((compared true plain).mp same)).1.1
    cases passing

end Method

end NativeBridge
