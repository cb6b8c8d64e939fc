import NativeBridge.Catalogue.Descriptor
import NativeBridge.Proofs.Naming.CanonicalForms
import NativeBridge.Proofs.Planning.ModuleNames

/-!
# Spellings of primitives

A primitive is classified by its name alone, in any accepted spelling. Its names are also made from
what stands around it: its namespace or the type that encloses it, and its generic arguments.

* `TypeForm.layout_injective`: the marks of a form can be read back.
* `TypeRef.names_eq_iff_form_eq`: so the two names of a type together determine its canonical form.
* `TypeRef.form_eq_iff_sameSurroundings`: two spellings of one primitive have the same form exactly
  if the same stands around them.
* `TypeRef.names_eq_iff_respelled`: so, of two types that differ in primitives only, both names
  agree exactly if each of these primitives has the same around it.
-/

namespace NativeBridge

/-! ## Layouts that are read back -/

structure FormStack where
  current : TypeForm := .empty
  outer : List TypeForm := []

namespace FormStack

def step (stack : FormStack) : Mark → FormStack
  | .char c => { stack with current := stack.current.addName [c] }
  | .separator => { stack with current := stack.current.endSegment }
  | .nested => { stack with current := .nested stack.current [] [] }
  | .argument true => { outer := stack.current :: stack.outer }
  | .argument false =>
      match stack.outer with
      | [] => stack
      | form :: outer => { outer := form.addArgs [stack.current] :: outer }
  | .close =>
      match stack.outer with
      | [] => stack
      | form :: outer => { current := form.addArgs [stack.current], outer }

def read (stack : FormStack) (marks : List Mark) : FormStack := marks.foldl step stack

theorem read_nil (stack : FormStack) : stack.read [] = stack := rfl

theorem read_append (stack : FormStack) (first second : List Mark) :
    stack.read (first ++ second) = (stack.read first).read second :=
  List.foldl_append

theorem read_cons (stack : FormStack) (mark : Mark) (marks : List Mark) :
    stack.read (mark :: marks) = (stack.step mark).read marks :=
  rfl

theorem read_name (form : TypeForm) (outer : List TypeForm) (name : List Char) :
    read ⟨form, outer⟩ (name.map .char) = ⟨form.addName name, outer⟩ := by
  induction name generalizing form with
  | nil => rw [TypeForm.addName_nil]; rfl
  | cons c name ih =>
      rw [List.map_cons, read_cons, step, ih, TypeForm.addName_addName, List.singleton_append]

theorem read_segments (before segments : List (List Char)) (outer : List TypeForm) :
    read ⟨.root before [] [], outer⟩
        (segments.flatMap fun segment => segment.map .char ++ [.separator]) =
      ⟨.root (before ++ segments) [] [], outer⟩ := by
  induction segments generalizing before with
  | nil => rw [List.append_nil]; rfl
  | cons segment segments ih =>
      rw [List.flatMap_cons, read_append, read_append, read_name, read_cons, step]
      exact (ih (before ++ [segment])).trans (by rw [List.append_assoc, List.singleton_append])

mutual

theorem read_layout : ∀ (form : TypeForm) (outer : List TypeForm),
    read { outer } form.layout = ⟨form, outer⟩
  | .root segments name args, outer => by
      rw [TypeForm.layout, read_append, read_append, TypeForm.empty, read_segments, read_name,
        read_arguments args]
      rfl
  | .nested parent name args, outer => by
      rw [TypeForm.layout, read_append, read_append, read_append, read_layout parent, read_cons,
        step, read_nil, read_name, read_arguments args]
      rfl

theorem read_arguments : ∀ (args : List TypeForm) (form : TypeForm) (outer : List TypeForm),
    read ⟨form, outer⟩ (TypeForm.argumentLayouts args) = ⟨form.addArgs args, outer⟩
  | [], form, outer => by
      rw [TypeForm.addArgs_nil]
      rfl
  | arg :: rest, form, outer => by
      rw [TypeForm.argumentLayouts, read_cons, step, read_append, read_layout arg,
        read_furtherArguments rest]

theorem read_furtherArguments : ∀ (args : List TypeForm) (arg form : TypeForm)
    (outer : List TypeForm),
    read ⟨arg, form :: outer⟩ (TypeForm.furtherLayouts args) = ⟨form.addArgs (arg :: args), outer⟩
  | [], arg, form, outer => rfl
  | next :: rest, arg, form, outer => by
      rw [TypeForm.furtherLayouts, read_cons, step, read_append, read_layout next,
        read_furtherArguments rest, TypeForm.addArgs_addArgs]
      rfl

end

end FormStack

theorem TypeForm.layout_injective {form form' : TypeForm} (same : form.layout = form'.layout) :
    form = form' := by
  have read := FormStack.read_layout form []
  rw [same, FormStack.read_layout form' []] at read
  exact (congrArg FormStack.current read).symm

namespace TypeRef

theorem names_eq_iff_form_eq (t u : TypeRef) :
    t.reference = u.reference ∧ t.ident = u.ident ↔ t.form = u.form := by
  constructor
  · rintro ⟨references, idents⟩
    have layouts := (reference_eq_iff idents).mp references
    rw [← layout_form t, ← layout_form u] at layouts
    exact TypeForm.layout_injective layouts
  · intro same
    have layouts : t.layout = u.layout := by rw [← layout_form t, same, layout_form u]
    have idents : t.ident = u.ident := by rw [ident_eq_iff, layouts]
    exact ⟨(reference_eq_iff idents).mpr layouts, idents⟩

/-! ## Types that differ in primitives only -/

/-- Whether two types differ at most in primitives, each of which is replaced by a primitive of the
same kind that may stand in another place and have other arguments, as far as that is allowed. -/
inductive Respelled (allowed : TypeRef → TypeRef → Prop) : TypeRef → TypeRef → Prop
  | primitive {t u : TypeRef} {kind : Kind} : t.category = .primitive → u.category = .primitive →
      Kind.ofPrimitiveName? t.name = some kind → Kind.ofPrimitiveName? u.name = some kind →
      allowed t u → Respelled allowed t u
  | level {t u : TypeRef} : t.space = u.space → t.name = u.name → t.category = u.category →
      t.declaredSealed = u.declaredSealed →
      t.parent.isSome = u.parent.isSome →
      (∀ p q, t.parent = some p → u.parent = some q → Respelled allowed p q) →
      t.args.length = u.args.length →
      (∀ (index : Nat) p q, t.args[index]? = some p → u.args[index]? = some q →
        Respelled allowed p q) →
      Respelled allowed t u

/-- Whether the same stands around two types: the namespace or the enclosing type, and the generic
arguments. -/
def SameSurroundings (t u : TypeRef) : Prop :=
  (match t.parent, u.parent with
    | none, none => namespaceSegments t.space = namespaceSegments u.space
    | some p, some q => p.form = q.form
    | _, _ => False) ∧
    argumentForms t.args = argumentForms u.args

theorem argumentForms_eq_map (args : List TypeRef) : argumentForms args = args.map form := by
  induction args with
  | nil => rfl
  | cons arg rest ih => rw [argumentForms, List.map_cons, ih]

theorem form_eq (ty : TypeRef) :
    ty.form = levelForm ty.space ty.canonicalName (argumentForms ty.args) ty.parent := by
  cases ty
  rfl

theorem form_eq_iff_sameSurroundings {t u : TypeRef} (name : t.canonicalName = u.canonicalName) :
    t.form = u.form ↔ t.SameSurroundings u := by
  rw [form_eq t, form_eq u, name, SameSurroundings]
  cases t.parent <;> cases u.parent <;> simp [levelForm]

theorem canonicalName_of_primitive {t u : TypeRef} {kind : Kind}
    (category : t.category = .primitive) (category' : u.category = .primitive)
    (named : Kind.ofPrimitiveName? t.name = some kind)
    (named' : Kind.ofPrimitiveName? u.name = some kind) : t.canonicalName = u.canonicalName := by
  rw [canonicalName, canonicalName, category, category', canonicalChars, canonicalChars, named,
    named']

theorem map_form_eq_iff {args others : List TypeRef} (length : args.length = others.length) :
    args.map form = others.map form ↔ ∀ (index : Nat) p q,
      args[index]? = some p → others[index]? = some q → p.form = q.form := by
  induction args generalizing others with
  | nil =>
      cases others with
      | nil => simp
      | cons other others => cases length
  | cons arg args ih =>
      cases others with
      | nil => cases length
      | cons other others =>
          rw [List.map_cons, List.map_cons, List.cons.injEq, ih (Nat.succ.inj length)]
          constructor
          · rintro ⟨first, rest⟩ index p q left right
            cases index with
            | zero =>
                obtain rfl := Option.some.inj left
                obtain rfl := Option.some.inj right
                exact first
            | succ index => exact rest index p q left right
          · intro each
            exact ⟨each 0 arg other rfl rfl, fun index => each (index + 1)⟩

theorem sameSurroundings_iff_parts {t u : TypeRef} (space : t.space = u.space)
    (nested : t.parent.isSome = u.parent.isSome) (length : t.args.length = u.args.length) :
    t.SameSurroundings u ↔
      (∀ p q, t.parent = some p → u.parent = some q → p.form = q.form) ∧
        ∀ (index : Nat) p q, t.args[index]? = some p → u.args[index]? = some q →
          p.form = q.form := by
  rw [SameSurroundings, argumentForms_eq_map, argumentForms_eq_map, map_form_eq_iff length, space]
  refine and_congr_left' ?_
  revert nested
  cases t.parent <;> cases u.parent <;> simp

theorem canonicalName_of_level {t u : TypeRef} (name : t.name = u.name)
    (category : t.category = u.category) (length : t.args.length = u.args.length) :
    t.canonicalName = u.canonicalName := by
  rw [canonicalName, canonicalName, name, category, length]

theorem form_eq_iff_respelled {allowed : TypeRef → TypeRef → Prop} {t u : TypeRef}
    (respelled : Respelled allowed t u) : t.form = u.form ↔ Respelled SameSurroundings t u := by
  constructor
  · intro same
    -- The forms do not show which primitives were replaced, but the respelling does.
    induction respelled with
    | primitive category category' named named' _ =>
        have name := canonicalName_of_primitive category category' named named'
        exact .primitive category category' named named'
          ((form_eq_iff_sameSurroundings name).mp same)
    | level space name category isSealed nested _ length _ parents args =>
        have canonical := canonicalName_of_level name category length
        obtain ⟨sameParents, sameArgs⟩ := (sameSurroundings_iff_parts space nested length).mp
          ((form_eq_iff_sameSurroundings canonical).mp same)
        exact .level space name category isSealed nested
          (fun p q left right => parents p q left right (sameParents p q left right)) length
          (fun index p q left right => args index p q left right (sameArgs index p q left right))
  · intro kept
    clear respelled
    induction kept with
    | primitive category category' named named' same =>
        have name := canonicalName_of_primitive category category' named named'
        exact (form_eq_iff_sameSurroundings name).mpr same
    | level space name category _ nested _ length _ parents args =>
        have canonical := canonicalName_of_level name category length
        exact (form_eq_iff_sameSurroundings canonical).mpr
          ((sameSurroundings_iff_parts space nested length).mpr ⟨parents, args⟩)

end TypeRef

/-! ## Names of respelled types -/

def Method.Respelled (allowed : TypeRef → TypeRef → Prop) (m n : Method) : Prop :=
  m.name = n.name ∧ List.Forall₂ (fun param other => param.byRef = other.byRef ∧
    TypeRef.Respelled allowed param.type other.type) m.params n.params

namespace TypeRef

theorem reference_eq_of_respelled {t u : TypeRef} (respelled : Respelled SameSurroundings t u) :
    t.reference = u.reference :=
  ((names_eq_iff_form_eq t u).mpr ((form_eq_iff_respelled respelled).mpr respelled)).1

theorem signature_eq_of_respelled {t u : TypeRef} {m n : Method}
    (declaring : Respelled SameSurroundings t u) (methods : m.Respelled SameSurroundings n) :
    m.signature t = n.signature u := by
  obtain ⟨name, params⟩ := methods
  rw [Method.signature, Method.signature, reference_eq_of_respelled declaring, name,
    Signature.mk.injEq, ← List.forall₂_eq_eq_eq, List.forall₂_map_left_iff,
    List.forall₂_map_right_iff]
  refine ⟨rfl, rfl, params.imp ?_⟩
  rintro param other ⟨byRef, type⟩
  rw [byRef, reference_eq_of_respelled type]

theorem place_eq_of_respelled {descriptors : List TypeDescriptor} {catalogue : Catalogue}
    {d e : TypeDescriptor} {place other : Nat}
    (accepted : Catalogue.ofTypes descriptors = .ok catalogue)
    (respelled : Respelled SameSurroundings d.type e.type)
    (first : descriptors[place]? = some d) (second : descriptors[other]? = some e) :
    place = other := by
  obtain ⟨-, distinct⟩ := Catalogue.ofTypes_eq_ok_iff.mp accepted
  have found : (Catalogue.references descriptors)[place]? = some d.type.reference := by
    rw [Catalogue.references, List.getElem?_map, first]
    rfl
  have found' : (Catalogue.references descriptors)[other]? = some d.type.reference := by
    rw [Catalogue.references, List.getElem?_map, second, reference_eq_of_respelled respelled]
    rfl
  have inside := (List.getElem?_eq_some_iff.mp found).1
  exact (List.getElem?_inj inside distinct).mp (found.trans found'.symm)

/-- Of two types that differ in primitives only, each replaced by one of the same kind, both names
agree exactly if the same stands around each replaced primitive. Then signatures agree too, and no
accepted catalogue lists the types at two places. -/
theorem names_eq_iff_respelled {t u : TypeRef} (differ : Respelled (fun _ _ => True) t u) :
    (t.reference = u.reference ∧ t.ident = u.ident ↔ Respelled SameSurroundings t u) ∧
      (Respelled SameSurroundings t u →
        (∀ m n : Method, m.Respelled SameSurroundings n → m.signature t = n.signature u) ∧
        ∀ descriptors catalogue, Catalogue.ofTypes descriptors = .ok catalogue →
          ∀ (d e : TypeDescriptor) (place other : Nat), d.type = t → e.type = u →
            descriptors[place]? = some d → descriptors[other]? = some e → place = other) := by
  constructor
  · rw [names_eq_iff_form_eq]
    exact form_eq_iff_respelled differ
  · intro respelled
    refine ⟨fun m n => signature_eq_of_respelled respelled, ?_⟩
    rintro descriptors catalogue accepted d e place other rfl rfl
    exact place_eq_of_respelled accepted respelled

def slotOf (key : TypeRef) : TypeRef :=
  { name := "Slot", category := .struct, parent := some ((ofClass "" "Map`1").withArgs [key]) }

theorem respelled_slotOf {allowed : TypeRef → TypeRef → Prop} {key key' : TypeRef}
    (respelled : Respelled allowed key key') : Respelled allowed (slotOf key) (slotOf key') := by
  refine .level rfl rfl rfl rfl rfl ?_ rfl nofun
  intro p q left right
  obtain rfl := Option.some.inj left
  obtain rfl := Option.some.inj right
  refine .level rfl rfl rfl rfl rfl nofun rfl ?_
  intro index p q left right
  cases index with
  | zero =>
      obtain rfl := Option.some.inj left
      obtain rfl := Option.some.inj right
      exact respelled
  | succ index => cases left

theorem names_slotOf :
    let short := slotOf (primitive "i32")
    let long := slotOf (primitive "System.Int32")
    (short.reference = long.reference ∧ short.ident = long.ident) ∧
      ((Method.static "Put").addParam "slot" short true).signature short =
        ((Method.static "Put").addParam "slot" long true).signature long ∧
      ∀ catalogue, Catalogue.ofTypes [.ofType short, .ofType long] ≠ .ok catalogue := by
  intro short long
  have respelled : ∀ {allowed : TypeRef → TypeRef → Prop},
      allowed (primitive "i32") (primitive "System.Int32") → Respelled allowed short long :=
    fun kept => respelled_slotOf (.primitive rfl rfl rfl rfl kept)
  have kept : Respelled SameSurroundings short long := respelled ⟨rfl, rfl⟩
  obtain ⟨names, consequences⟩ := names_eq_iff_respelled (respelled trivial)
  obtain ⟨signatures, catalogues⟩ := consequences kept
  refine ⟨names.mpr kept, signatures _ _ ⟨rfl, .cons ⟨rfl, kept⟩ .nil⟩, ?_⟩
  intro catalogue accepted
  have equal : 0 = 1 := catalogues _ catalogue accepted _ _ 0 1 rfl rfl rfl rfl
  exact absurd equal (by decide)

def systemInt32 : TypeRef := { space := "System", name := "Int32", category := .primitive }

theorem not_names_eq_of_respelled :
    ¬ (∀ t u : TypeRef, Respelled (fun _ _ => True) t u →
        t.reference = u.reference ∧ t.ident = u.ident) ∧
      ¬ (∀ (t u : TypeRef) (m n : Method), Respelled (fun _ _ => True) t u →
        m.Respelled (fun _ _ => True) n → m.signature t = n.signature u) ∧
      ¬ ∀ descriptors catalogue, Catalogue.ofTypes descriptors = .ok catalogue →
        descriptors.Pairwise fun d e => ¬ Respelled (fun _ _ => True) d.type e.type := by
  have respelled : Respelled (fun _ _ => True) systemInt32 (primitive "i32") :=
    .primitive rfl rfl rfl rfl trivial
  have apart : systemInt32.reference ≠ (primitive "i32").reference := by decide
  refine ⟨fun same => ?_, fun same => ?_, fun once => ?_⟩
  · exact apart (same _ _ respelled).1
  · have signatures := same systemInt32 (primitive "i32") (.static "Parse") (.static "Parse")
      respelled ⟨rfl, .nil⟩
    exact apart (congrArg Signature.declaring signatures)
  · let both : List TypeDescriptor := [.ofType systemInt32, .ofType (primitive "i32")]
    have accepted : Catalogue.ofTypes both = .ok { types := both } :=
      Catalogue.ofTypes_eq_ok_iff.mpr ⟨rfl, by decide⟩
    have pairwise := List.pairwise_cons.mp (once _ _ accepted)
    exact pairwise.1 _ List.mem_cons_self respelled

end TypeRef

end NativeBridge
