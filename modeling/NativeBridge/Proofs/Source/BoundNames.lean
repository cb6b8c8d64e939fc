import NativeBridge.Proofs.Source.RuntimePaths
import NativeBridge.Source.Reader

/-!
# Names that code binds

The names that a function of emitted code binds are read back from its tokens, without regard to
what it was made from: its parameters, the parameters of its closures, and what it declares. Code
without the few tokens that take part in this binds nothing, and so it is with every type and path
that is read from a text.

* `boundNames_append`: code that binds nothing can be passed over.
* `quiet_ofReference`, `quiet_runtimePath`: types and the path of the runtime bind nothing.
-/

namespace NativeBridge.Source

/-! ## Reading bound names -/

def parameterNames : List Token → List String
  | .mark "->" :: _ => []
  | .word name :: .mark ":" :: rest => name :: parameterNames rest
  | _ :: rest => parameterNames rest
  | [] => []

def declaredName : List Token → List String
  | .word "mut" :: .word name :: _ => [name]
  | .word name :: _ => [name]
  | _ => []

def closureParameter : List Token → List String
  | .word name :: .mark "|" :: _ => [name]
  | _ => []

def boundBy : Token → List Token → List String
  | .word "fn", rest => parameterNames rest
  | .word "let", rest => declaredName rest
  | .mark "|", rest => closureParameter rest
  | _, _ => []

def boundNames : List Token → List String
  | [] => []
  | token :: rest => boundBy token rest ++ boundNames rest

/-! ## Code that binds nothing -/

def bindingTokens : List Token := [.word "fn", .word "let", .mark "|", .mark ":", .mark "->"]

def Quiet (tokens : List Token) : Prop := ∀ token ∈ tokens, token ∉ bindingTokens

instance (tokens : List Token) : Decidable (Quiet tokens) :=
  inferInstanceAs (Decidable (∀ token ∈ tokens, token ∉ bindingTokens))

variable {token : Token} {front rest tokens : List Token}

@[simp]
theorem quiet_nil : Quiet [] := nofun

theorem quiet_cons : Quiet (token :: rest) ↔ token ∉ bindingTokens ∧ Quiet rest :=
  List.forall_mem_cons

@[simp]
theorem quiet_append : Quiet (front ++ rest) ↔ Quiet front ∧ Quiet rest := List.forall_mem_append

@[simp]
theorem quiet_literal (value : String) : Quiet [.literal value] := by simp [Quiet, bindingTokens]

@[simp]
theorem quiet_sizeNumber (n : Nat) : Quiet (sizeNumber n) := by
  simp [Quiet, sizeNumber, bindingTokens]

@[simp]
theorem quiet_word {name : String} : Quiet [.word name] ↔ name ∉ ["fn", "let"] := by
  simp [Quiet, bindingTokens]

@[simp]
theorem quiet_parens : Quiet (parens tokens) ↔ Quiet tokens := by
  rw [parens, quiet_append, quiet_append, and_iff_left (by decide), and_iff_right (by decide)]

@[simp]
theorem quiet_brackets : Quiet (brackets tokens) ↔ Quiet tokens := by
  rw [brackets, quiet_append, quiet_append, and_iff_left (by decide), and_iff_right (by decide)]

@[simp]
theorem quiet_braces : Quiet (braces tokens) ↔ Quiet tokens := by
  rw [braces, quiet_append, quiet_append, and_iff_left (by decide), and_iff_right (by decide)]

@[simp]
theorem quiet_commaSeparated {items : List (List Token)} :
    Quiet (commaSeparated items) ↔ ∀ item ∈ items, Quiet item := by
  induction items with
  | nil => exact iff_of_true quiet_nil nofun
  | cons item others ih =>
      rw [List.forall_mem_cons, ← ih]
      cases others with
      | nil => exact (and_iff_left quiet_nil).symm
      | cons other others =>
          have comma : Quiet [.mark ","] := by decide
          have separated : commaSeparated (item :: other :: others) =
              item ++ [.mark ","] ++ commaSeparated (other :: others) := rfl
          rw [separated, quiet_append, quiet_append, and_iff_left comma]

theorem boundBy_eq_nil (quiet : token ∉ bindingTokens) (rest : List Token) :
    boundBy token rest = [] := by
  unfold boundBy
  split
  all_goals first | rfl | exact absurd (by decide) quiet

theorem boundNames_append (quiet : Quiet front) (rest : List Token) :
    boundNames (front ++ rest) = boundNames rest := by
  induction front with
  | nil => rfl
  | cons token front ih =>
      obtain ⟨first, others⟩ := quiet_cons.mp quiet
      rw [List.cons_append, boundNames, boundBy_eq_nil first, ih others, List.nil_append]

theorem parameterNames_append (quiet : Quiet front) {mark : String} (other : mark ≠ ":")
    (rest : List Token) :
    parameterNames (front ++ .mark mark :: rest) = parameterNames (.mark mark :: rest) := by
  induction front with
  | nil => rfl
  | cons token front ih =>
      obtain ⟨first, others⟩ := quiet_cons.mp quiet
      rw [List.cons_append, parameterNames.eq_def]
      split
      · rename_i same
        obtain ⟨rfl, -⟩ := List.cons.inj same
        exact absurd (by decide) first
      · rename_i name rest' same
        obtain ⟨-, next⟩ := List.cons.inj same
        -- The colon would be the mark at the end or a token of the quiet ones.
        cases front with
        | nil => exact absurd (Token.mark.inj (List.cons.inj next).1) other
        | cons token front =>
            obtain ⟨rfl, -⟩ := List.cons.inj next
            exact absurd (by decide) (quiet_cons.mp others).1
      · rename_i same
        obtain ⟨-, rfl⟩ := List.cons.inj same
        exact ih others
      · rename_i same
        cases same

theorem closureParameter_append (quiet : Quiet front) {mark : String} (other : mark ≠ "|")
    (rest : List Token) : closureParameter (front ++ .mark mark :: rest) = [] := by
  unfold closureParameter
  split
  · rename_i name rest' same
    -- The bar would be the mark at the end or a token of the quiet ones.
    cases front with
    | nil => cases same
    | cons token front =>
        have next := (List.cons.inj same).2
        cases front with
        | nil => exact absurd (Token.mark.inj (List.cons.inj next).1) other
        | cons token front =>
            obtain ⟨rfl, -⟩ := List.cons.inj next
            exact absurd (by decide) (quiet_cons.mp (quiet_cons.mp quiet).2).1
  · rfl

/-! ## Types and paths -/

theorem quiet_of_passed (test : Token → Bool) (passed : test token = true)
    (none : ∀ token ∈ bindingTokens, test token = false) : token ∉ bindingTokens := by
  intro listed
  rw [none token listed] at passed
  cases passed

theorem quiet_of_isSegmentName (named : isSegmentName token = true) : token ∉ bindingTokens :=
  quiet_of_passed isSegmentName named (by decide)

theorem quiet_of_isConstant (constant : token.isConstant = true) : token ∉ bindingTokens :=
  quiet_of_passed Token.isConstant constant (by decide)

theorem quiet_readNames {places names : List Token} (quiet : Quiet places)
    (read : readNames places tokens = some (names, rest)) : Quiet names := by
  have named {name : Token} (valid : (isSegmentName name || name ∈ places) = true) :
      name ∉ bindingTokens := by
    rcases Bool.or_eq_true_iff.mp valid with named | listed
    · exact quiet_of_isSegmentName named
    · exact quiet name (of_decide_eq_true listed)
  fun_induction readNames places tokens generalizing names rest with
  | case1 name tokens valid ih =>
      obtain ⟨⟨others, after⟩, more, made⟩ := Option.map_eq_some_iff.mp read
      cases made
      exact quiet_append.mpr ⟨quiet_cons.mpr ⟨named valid, by decide⟩, ih more⟩
  | case2 => cases read
  | case3 name tokens _ valid =>
      cases read
      exact quiet_cons.mpr ⟨named valid, quiet_nil⟩
  | case4 => cases read
  | case5 => cases read

theorem quiet_readLength {length : List Token} (read : readLength tokens = some (length, rest)) :
    Quiet length := by
  unfold readLength at read
  split at read
  · obtain ⟨⟨names, after⟩, found, made⟩ := Option.map_eq_some_iff.mp read
    cases made
    exact quiet_cons.mpr ⟨by decide, quiet_readNames (by decide) found⟩
  · split at read
    · cases read
      exact quiet_cons.mpr ⟨quiet_of_isConstant ‹_›, quiet_nil⟩
    · exact quiet_readNames (by decide) read
  · cases read

-- The readers of types call one another with less fuel, so that they are all quiet together.
structure QuietReads (fuel : Nat) : Prop where
  type : ∀ {tokens read rest}, readType fuel tokens = some (read, rest) → Quiet read
  items : ∀ {closing tokens items rest}, readItems fuel closing tokens = some (items, rest) →
    ∀ item ∈ items, Quiet item
  item : ∀ {closing tokens read rest}, readItem fuel closing tokens = some (read, rest) → Quiet read
  path : ∀ {tokens read rest}, readPath fuel tokens = some (read, rest) → Quiet read
  segment : ∀ {tokens read rest}, readSegment fuel tokens = some (read, rest) → Quiet read
  arguments : ∀ {name tokens read rest}, name ∉ bindingTokens →
    readArguments fuel name tokens = some (read, rest) → Quiet read

section Reads

variable {fuel : Nat} {read : List Token}

theorem QuietReads.readType (reads : QuietReads fuel)
    (found : readType (fuel + 1) tokens = some (read, rest)) : Quiet read := by
  rw [readType.eq_def] at found
  simp only at found
  split at found
  · cases found
    decide
  -- A pointer is marked in front of what it points to.
  iterate 4
    · obtain ⟨⟨target, after⟩, inner, made⟩ := Option.bind_eq_some_iff.mp found
      cases made
      exact quiet_append.mpr ⟨by decide, reads.type inner⟩
  · cases found
    decide
  · obtain ⟨⟨first, after⟩, inner, made⟩ := Option.bind_eq_some_iff.mp found
    have quiet := reads.type inner
    simp only at made
    split at made
    · cases made
      exact quiet_parens.mpr quiet
    · obtain ⟨⟨items, last⟩, more, made⟩ := Option.bind_eq_some_iff.mp made
      simp only at made
      split at made
      · cases made
        exact quiet_parens.mpr (quiet_append.mpr ⟨quiet, by decide⟩)
      · cases made
        exact quiet_parens.mpr (quiet_commaSeparated.mpr
          (List.forall_mem_cons.mpr ⟨quiet, reads.items more⟩))
    · cases made
  · obtain ⟨⟨item, after⟩, inner, made⟩ := Option.bind_eq_some_iff.mp found
    simp only at made
    split at made
    · cases made
      exact quiet_brackets.mpr (reads.type inner)
    · obtain ⟨⟨length, last⟩, measured, made⟩ := Option.bind_eq_some_iff.mp made
      simp only at made
      split at made
      · cases made
        exact quiet_brackets.mpr (quiet_append.mpr
          ⟨quiet_append.mpr ⟨reads.type inner, by decide⟩, quiet_readLength measured⟩)
      · cases made
    · cases made
  · obtain ⟨⟨path, after⟩, inner, made⟩ := Option.bind_eq_some_iff.mp found
    cases made
    exact quiet_append.mpr ⟨by decide, reads.path inner⟩
  · split at found
    · exact reads.path found
    · cases found
  · cases found

theorem QuietReads.readItems (reads : QuietReads fuel) {closing : Token}
    {items : List (List Token)}
    (found : readItems (fuel + 1) closing tokens = some (items, rest)) :
    ∀ item ∈ items, Quiet item := by
  rw [readItems.eq_def] at found
  simp only at found
  split at found
  · cases found
  · split at found
    · cases found
      exact nofun
    · obtain ⟨⟨item, after⟩, first, made⟩ := Option.bind_eq_some_iff.mp found
      simp only at made
      split at made
      · obtain ⟨⟨others, last⟩, more, made⟩ := Option.bind_eq_some_iff.mp made
        cases made
        exact List.forall_mem_cons.mpr ⟨reads.item first, reads.items more⟩
      · split at made
        · cases made
          exact List.forall_mem_singleton.mpr (reads.item first)
        · cases made
      · cases made

theorem QuietReads.readItem (reads : QuietReads fuel) {closing : Token}
    (found : readItem (fuel + 1) closing tokens = some (read, rest)) : Quiet read := by
  rw [readItem.eq_def] at found
  split at found
  · rename_i same
    cases same
  · cases found
  · rename_i same
    cases same
    split at found
    · rename_i constant
      cases found
      exact quiet_cons.mpr ⟨quiet_of_isConstant (Bool.and_eq_true_iff.mp constant).2, quiet_nil⟩
    · exact reads.type found

theorem QuietReads.readPath (reads : QuietReads fuel)
    (found : readPath (fuel + 1) tokens = some (read, rest)) : Quiet read := by
  rw [readPath.eq_def] at found
  obtain ⟨⟨segment, after⟩, first, made⟩ := Option.bind_eq_some_iff.mp found
  simp only at made
  split at made
  · obtain ⟨⟨path, last⟩, more, made⟩ := Option.bind_eq_some_iff.mp made
    cases made
    exact quiet_append.mpr
      ⟨quiet_append.mpr ⟨reads.segment first, by decide⟩, reads.path more⟩
  · cases made
    exact reads.segment first

theorem QuietReads.readSegment (reads : QuietReads fuel)
    (found : readSegment (fuel + 1) tokens = some (read, rest)) : Quiet read := by
  have places : ∀ word ∈ placeWords, Token.word word ∉ bindingTokens := by decide
  rw [readSegment.eq_def] at found
  split at found
  · rename_i same
    cases same
  · cases found
  · rename_i same
    cases same
    split at found
    · rename_i word
      split at found
      · rename_i listed
        cases found
        exact quiet_cons.mpr ⟨places word listed, quiet_nil⟩
      · split at found
        · exact reads.arguments (quiet_of_isSegmentName ‹_›) found
        · cases found
    · split at found
      · exact reads.arguments (quiet_of_isSegmentName ‹_›) found
      · cases found
    · cases found

theorem QuietReads.readArguments (reads : QuietReads fuel) {name : Token}
    (quiet : name ∉ bindingTokens)
    (found : readArguments (fuel + 1) name tokens = some (read, rest)) : Quiet read := by
  have single : Quiet [name] := quiet_cons.mpr ⟨quiet, quiet_nil⟩
  rw [readArguments.eq_def] at found
  simp only at found
  split at found
  iterate 2
    · obtain ⟨⟨items, after⟩, inner, made⟩ := Option.bind_eq_some_iff.mp found
      have each := quiet_commaSeparated.mpr (reads.items inner)
      simp only at made
      split at made
      · cases made
        exact single
      · cases made
        exact quiet_append.mpr
          ⟨quiet_append.mpr ⟨quiet_cons.mpr ⟨quiet, by decide⟩, each⟩, by decide⟩
  · cases found
    exact single

end Reads

theorem quietReads (fuel : Nat) : QuietReads fuel := by
  induction fuel with
  | zero => exact ⟨nofun, nofun, nofun, nofun, nofun, nofun⟩
  | succ fuel ih =>
      exact ⟨ih.readType, ih.readItems, ih.readItem, ih.readPath, ih.readSegment, ih.readArguments⟩

theorem quiet_ofReference {reference : String} {type : CodeType}
    (spelled : CodeType.ofReference reference = .ok type) : Quiet type.tokens := by
  rw [CodeType.ofReference] at spelled
  split at spelled
  · rename_i found
    cases spelled
    obtain ⟨scanned, -, read⟩ := Option.bind_eq_some_iff.mp found
    simp only at read
    split at read
    · rename_i whole
      cases read
      exact (quietReads _).type whole
    · cases read
  · cases spelled

theorem quiet_runtimePath {options : Options} {runtime : List Token}
    (path : runtimePath options = .ok runtime) : Quiet runtime := by
  obtain ⟨tokens, read⟩ := exists_readNames path
  exact quiet_readNames (by decide) read

end NativeBridge.Source
