import NativeBridge.Catalogue.TypeName
import NativeBridge.Proofs.Text.Hex

/-!
# Layouts of type names

Both names of a type are written from one layout, a list of marks: the characters of its segments,
the ends of segments, the steps into nested types, and the starts and ends of arguments.

* `referenceChars_eq`, `identChars_eq`: the reference and the identifier in terms of the layout.
* `identOf_eq_iff`: an identifier determines every mark, except that it does not tell an argument
  that opens a list from a further argument of a list that is open already.
* `reference_eq_iff`: between layouts that agree so far, the reference tells exactly these apart.
-/

namespace NativeBridge

inductive Mark where
  | char (c : Char)
  | separator
  | nested
  | argument (opens : Bool)
  | close
  deriving DecidableEq, Repr

namespace TypeRef

mutual

def layout : TypeRef → List Mark
  | ⟨space, name, parent, args, category, _⟩ =>
      enclosingLayout space parent ++
        ((canonicalChars category name args.length).map .char ++ argumentLayouts args)

def enclosingLayout (space : String) : Option TypeRef → List Mark
  | some parent => layout parent ++ [.nested]
  | none => (namespaceSegments space).flatMap fun segment => segment.map .char ++ [.separator]

def argumentLayouts : List TypeRef → List Mark
  | [] => []
  | arg :: rest => .argument true :: (layout arg ++ furtherLayouts rest)

def furtherLayouts : List TypeRef → List Mark
  | [] => [.close]
  | arg :: rest => .argument false :: (layout arg ++ furtherLayouts rest)

end

end TypeRef

namespace Mark

/-- The mark without the difference between opening an argument list and continuing it. -/
def blur : Mark → Mark
  | .argument _ => .argument true
  | mark => mark

def isChar : Mark → Bool
  | .char _ => true
  | _ => false

def reference : Mark → List Char
  | .char c => [c]
  | .separator => [':', ':']
  | .nested => [':', ':']
  | .argument true => ['<']
  | .argument false => [',', ' ']
  | .close => ['>']

def ident (atStart : Bool) : Mark → List Char
  | .char c => segmentChar atStart c
  | .separator => ['_']
  | .nested => ['_', '2']
  | .argument _ => ['_', '3']
  | .close => ['_', '5']

def identOf (atStart : Bool) : List Mark → List Char
  | [] => []
  | mark :: rest => mark.ident atStart ++ identOf (!mark.isChar) rest

end Mark

/-! ## References -/

mutual

theorem TypeRef.referenceChars_eq : ∀ ty : TypeRef,
    ty.referenceChars = ty.layout.flatMap Mark.reference
  | ⟨space, name, parent, args, category, _⟩ => by
      rw [referenceChars, layout, List.flatMap_append, List.flatMap_append, ← enclosingReference_eq,
        ← argumentReferences_eq, List.append_assoc]
      simp [List.flatMap_map, Mark.reference]

theorem TypeRef.enclosingReference_eq (space : String) : ∀ parent : Option TypeRef,
    enclosingReference space parent = (enclosingLayout space parent).flatMap Mark.reference
  | some parent => by
      rw [enclosingReference, enclosingLayout, List.flatMap_append, ← referenceChars_eq parent]
      rfl
  | none => by
      rw [enclosingReference, enclosingLayout, List.flatMap_assoc]
      simp [List.flatMap_append, List.flatMap_map, Mark.reference]

theorem TypeRef.argumentReferences_eq : ∀ args : List TypeRef,
    argumentReferences args = (argumentLayouts args).flatMap Mark.reference
  | [] => rfl
  | arg :: rest => by
      rw [argumentReferences, argumentLayouts, List.flatMap_cons, List.flatMap_append,
        ← referenceChars_eq arg, ← furtherReferences_eq rest, List.append_assoc]
      rfl

theorem TypeRef.furtherReferences_eq : ∀ args : List TypeRef,
    furtherReferences args = (furtherLayouts args).flatMap Mark.reference
  | [] => rfl
  | arg :: rest => by
      rw [furtherReferences, furtherLayouts, List.flatMap_cons, List.flatMap_append,
        ← referenceChars_eq arg, ← furtherReferences_eq rest, List.append_assoc]
      rfl

end

/-! ## Identifiers -/

namespace Mark

def EndsSegment (rest : List Mark) : Prop := ∀ c tail, rest ≠ .char c :: tail

theorem endsSegment_nil : EndsSegment [] := by
  intro c tail equal
  cases equal

theorem endsSegment_cons {mark : Mark} (notChar : mark.isChar = false) (rest : List Mark) :
    EndsSegment (mark :: rest) := by
  intro c tail equal
  cases equal
  cases notChar

theorem identOf_cons {mark : Mark} (notChar : mark.isChar = false) (rest : List Mark) :
    identOf true (mark :: rest) = mark.ident true ++ identOf true rest := by
  rw [identOf, notChar, Bool.not_false]

theorem identOf_endsSegment {rest : List Mark} (ends : EndsSegment rest) (atStart : Bool) :
    identOf atStart rest = identOf true rest := by
  cases rest with
  | nil => rfl
  | cons mark tail =>
      cases mark with
      | char c => exact absurd rfl (ends c tail)
      | separator => rfl
      | nested => rfl
      | argument opens => rfl
      | close => rfl

theorem identOf_tail (segment : List Char) {rest : List Mark} (ends : EndsSegment rest) :
    identOf false (segment.map .char ++ rest) =
      segment.flatMap (segmentChar false) ++ identOf true rest := by
  induction segment with
  | nil => exact identOf_endsSegment ends false
  | cons c segment ih =>
      simp only [List.map_cons, List.cons_append, identOf, ident, isChar, Bool.not_true, ih,
        List.flatMap_cons, List.append_assoc]

theorem identOf_segment (segment : List Char) {rest : List Mark} (ends : EndsSegment rest) :
    identOf true (segment.map .char ++ rest) = segmentChars segment ++ identOf true rest := by
  cases segment with
  | nil => rfl
  | cons c segment =>
      simp only [List.map_cons, List.cons_append, identOf, ident, isChar, Bool.not_true,
        identOf_tail segment ends, segmentChars, List.append_assoc]

end Mark

open Mark in
theorem TypeRef.endsSegment_argumentLayouts (args : List TypeRef) {rest : List Mark}
    (ends : EndsSegment rest) : EndsSegment (argumentLayouts args ++ rest) := by
  cases args with
  | nil => exact ends
  | cons arg args => exact endsSegment_cons rfl _

open Mark in
theorem TypeRef.endsSegment_furtherLayouts (args : List TypeRef) (rest : List Mark) :
    EndsSegment (furtherLayouts args ++ rest) := by
  cases args <;> exact endsSegment_cons rfl _

open Mark in
theorem TypeRef.identOf_namespaces (segments : List (List Char)) (rest : List Mark) :
    identOf true (segments.flatMap (fun segment => segment.map .char ++ [.separator]) ++ rest) =
      segments.flatMap (fun segment => segmentChars segment ++ ['_']) ++ identOf true rest := by
  induction segments with
  | nil => rfl
  | cons segment segments ih =>
      simp only [List.flatMap_cons, List.append_assoc, List.cons_append, List.nil_append]
      rw [identOf_segment segment (endsSegment_cons rfl _), identOf_cons rfl, ih]
      rfl

open Mark in
mutual

theorem TypeRef.identOf_layout : ∀ (ty : TypeRef) {rest : List Mark}, EndsSegment rest →
    identOf true (ty.layout ++ rest) = ty.identChars ++ identOf true rest
  | ⟨space, name, parent, args, category, _⟩, rest, ends => by
      rw [layout, List.append_assoc, List.append_assoc, identOf_enclosing,
        identOf_segment _ (endsSegment_argumentLayouts args ends), identOf_arguments args ends,
        identChars, List.append_assoc, List.append_assoc]

theorem TypeRef.identOf_enclosing (space : String) : ∀ (parent : Option TypeRef) (rest : List Mark),
    identOf true (enclosingLayout space parent ++ rest) =
      enclosingIdent space parent ++ identOf true rest
  | some parent, rest => by
      rw [enclosingLayout, List.append_assoc, List.singleton_append,
        identOf_layout parent (endsSegment_cons rfl rest), identOf_cons rfl, enclosingIdent,
        List.append_assoc]
      rfl
  | none, rest => by
      rw [enclosingLayout, identOf_namespaces, enclosingIdent]

theorem TypeRef.identOf_arguments : ∀ (args : List TypeRef) {rest : List Mark}, EndsSegment rest →
    identOf true (argumentLayouts args ++ rest) = argumentIdents args ++ identOf true rest
  | [], rest, _ => rfl
  | arg :: args, rest, _ => by
      rw [argumentLayouts, List.cons_append, List.append_assoc, identOf_cons rfl,
        identOf_layout arg (endsSegment_furtherLayouts args rest), identOf_further args rest,
        argumentIdents, List.append_assoc, List.append_assoc]
      rfl

theorem TypeRef.identOf_further : ∀ (args : List TypeRef) (rest : List Mark),
    identOf true (furtherLayouts args ++ rest) = furtherIdents args ++ identOf true rest
  | [], rest => rfl
  | arg :: args, rest => by
      rw [furtherLayouts, List.cons_append, List.append_assoc, identOf_cons rfl,
        identOf_layout arg (endsSegment_furtherLayouts args rest), identOf_further args rest,
        furtherIdents, List.append_assoc, List.append_assoc]
      rfl

end

theorem TypeRef.identChars_eq (ty : TypeRef) : ty.identChars = Mark.identOf true ty.layout := by
  have whole := identOf_layout ty Mark.endsSegment_nil
  simpa [Mark.identOf] using whole.symm

/-! ## Reading identifiers back -/

theorem Text.isAsciiDigit_of_isAsciiLetter {c : Char} (letter : isAsciiLetter c = true) :
    isAsciiDigit c = false := by
  simp only [isAsciiLetter, isAsciiDigit, Bool.or_eq_true, Bool.and_eq_true, decide_eq_true_eq,
    Bool.and_eq_false_imp, decide_eq_false_iff_not, Char.le_def, UInt32.le_iff_toNat_le] at letter ⊢
  intro _ high
  simp at letter high
  omega

namespace Mark

def readMark : List Char → Option (Mark × List Char)
  | [] => none
  | '_' :: '0' :: rest => some (.char '_', rest)
  | '_' :: '1' :: rest =>
      (Text.ofHex? (rest.take 6)).map fun code => (.char (Char.ofNat code), rest.drop 6)
  | '_' :: '2' :: rest => some (.nested, rest)
  | '_' :: '3' :: rest => some (.argument true, rest)
  | '_' :: '5' :: rest => some (.close, rest)
  | '_' :: rest => some (.separator, rest)
  | c :: rest => some (.char c, rest)

theorem readMark_plain {c : Char} (plain : c ≠ '_') (rest : List Char) :
    readMark (c :: rest) = some (.char c, rest) := by
  unfold readMark
  split <;> simp_all

theorem readMark_escaped (c : Char) (rest : List Char) :
    readMark ('_' :: '1' :: (Text.paddedHex 6 c.toNat ++ rest)) = some (.char c, rest) := by
  have bound : c.toNat < 16 ^ 6 := by
    have valid := c.valid
    simp only [UInt32.isValidChar, Nat.isValidChar] at valid
    simp only [Char.toNat]
    omega
  have width := Text.length_paddedHex (by norm_num) bound
  simp only [readMark, List.take_left' width, List.drop_left' width, Text.ofHex?_paddedHex,
    Option.map_some, Char.ofNat_toNat]

theorem readMark_segmentChar (atStart : Bool) (c : Char) (rest : List Char) :
    readMark (segmentChar atStart c ++ rest) = some (.char c, rest) := by
  unfold segmentChar
  split
  · rename_i plain
    apply readMark_plain
    rintro rfl
    cases atStart <;> exact absurd plain (by decide)
  · split
    · rename_i underscore
      subst underscore
      rfl
    · exact readMark_escaped c rest

theorem ident_start (mark : Mark) :
    ∃ c rest, mark.ident true = c :: rest ∧ Text.isAsciiDigit c = false := by
  cases mark with
  | char c =>
      simp only [ident, segmentChar, Bool.not_true, Bool.and_false, Bool.or_false]
      split
      · rename_i letter
        exact ⟨c, [], rfl, Text.isAsciiDigit_of_isAsciiLetter letter⟩
      · split
        · exact ⟨'_', _, rfl, rfl⟩
        · exact ⟨'_', _, rfl, rfl⟩
  | separator => exact ⟨'_', _, rfl, rfl⟩
  | nested => exact ⟨'_', _, rfl, rfl⟩
  | argument opens => exact ⟨'_', _, rfl, rfl⟩
  | close => exact ⟨'_', _, rfl, rfl⟩

/-- The end of a segment is told from the other marks by what follows it. -/
theorem readMark_separator (rest : List Mark) :
    readMark ('_' :: identOf true rest) = some (.separator, identOf true rest) := by
  cases rest with
  | nil => rfl
  | cons mark rest =>
      obtain ⟨c, tail, start, noDigit⟩ := ident_start mark
      simp only [identOf, start, List.cons_append]
      have ordinary : c ≠ '0' ∧ c ≠ '1' ∧ c ≠ '2' ∧ c ≠ '3' ∧ c ≠ '5' := by
        refine ⟨?_, ?_, ?_, ?_, ?_⟩ <;> (rintro rfl; exact absurd noDigit (by decide))
      unfold readMark
      split <;> grind

theorem readMark_ident (mark : Mark) (atStart : Bool) (rest : List Mark) :
    readMark (mark.ident atStart ++ identOf (!mark.isChar) rest) =
      some (mark.blur, identOf (!mark.isChar) rest) := by
  cases mark with
  | char c => exact readMark_segmentChar atStart c _
  | separator => exact readMark_separator rest
  | nested => rfl
  | argument opens => rfl
  | close => rfl

theorem isChar_blur (mark : Mark) : mark.blur.isChar = mark.isChar := by cases mark <;> rfl

theorem identOf_blur (atStart : Bool) (marks : List Mark) :
    identOf atStart (marks.map blur) = identOf atStart marks := by
  induction marks generalizing atStart with
  | nil => rfl
  | cons mark marks ih =>
      rw [List.map_cons, identOf, identOf, isChar_blur, ih]
      cases mark <;> rfl

theorem identOf_injective {left right : List Mark} (atStart : Bool)
    (same : identOf atStart left = identOf atStart right) : left.map blur = right.map blur := by
  induction left generalizing atStart right with
  | nil =>
      cases right with
      | nil => rfl
      | cons mark right =>
          have read := congrArg readMark same
          rw [identOf, identOf, readMark_ident] at read
          cases read
  | cons mark left ih =>
      cases right with
      | nil =>
          have read := congrArg readMark same
          rw [identOf, identOf, readMark_ident] at read
          cases read
      | cons other right =>
          have read := congrArg readMark same
          rw [identOf, identOf, readMark_ident, readMark_ident, Option.some.injEq,
            Prod.mk.injEq] at read
          obtain ⟨head, tail⟩ := read
          have kind : mark.isChar = other.isChar := by rw [← isChar_blur, head, isChar_blur]
          rw [← kind] at tail
          rw [List.map_cons, List.map_cons, head, ih _ tail]

theorem identOf_eq_iff (left right : List Mark) :
    identOf true left = identOf true right ↔ left.map blur = right.map blur := by
  constructor
  · exact identOf_injective true
  · intro same
    rw [← identOf_blur, same, identOf_blur]

/-! ## What a reference tells apart -/

theorem flatMap_reference_injective {left right : List Mark} (same : left.map blur = right.map blur)
    (equal : left.flatMap reference = right.flatMap reference) : left = right := by
  induction left generalizing right with
  | nil =>
      cases right with
      | nil => rfl
      | cons mark right => cases same
  | cons mark left ih =>
      cases right with
      | nil => cases same
      | cons other right =>
          obtain ⟨head, tail⟩ := List.cons.inj same
          rw [List.flatMap_cons, List.flatMap_cons] at equal
          -- Equal up to the flag of an argument, the two marks can differ only in `<` against `,`.
          have marks : mark = other := by
            cases mark <;> cases other <;> simp_all [blur, reference]
            rename_i opens continues
            cases opens <;> cases continues <;> simp_all
          subst marks
          rw [ih tail (List.append_cancel_left equal)]

end Mark

namespace TypeRef

theorem reference_eq_flatMap (ty : TypeRef) :
    ty.reference = String.ofList (ty.layout.flatMap Mark.reference) := by
  rw [reference, referenceChars_eq]

theorem ident_eq_iff (t u : TypeRef) :
    t.ident = u.ident ↔ t.layout.map Mark.blur = u.layout.map Mark.blur := by
  rw [ident, ident, String.ofList_inj, identChars_eq, identChars_eq, Mark.identOf_eq_iff]

theorem reference_eq_iff {t u : TypeRef} (same : t.ident = u.ident) :
    t.reference = u.reference ↔ t.layout = u.layout := by
  rw [reference_eq_flatMap, reference_eq_flatMap, String.ofList_inj]
  constructor
  · exact Mark.flatMap_reference_injective ((ident_eq_iff t u).mp same)
  · intro equal
    rw [equal]

end TypeRef

end NativeBridge
