import NativeBridge.Source.Scan

/-!
# Comments and gaps

Some text has no tokens: white space, and comments that document nothing.

* `readNext?_nil_iff`: what the reader of tokens skips in one step.
* `scan_nil_iff`: a text without tokens is one that such steps lead through.
* `Passes.append_line`: a text without tokens still has none with lines behind it, and hides none of
  them.
-/

namespace NativeBridge.Source

/-- What is skipped at the start of a text: from a character and the text behind it to the rest. -/
inductive Skips : Char → List Char → List Char → Prop
  | gap {c : Char} {text : List Char} : isGap c = true → Skips c text text
  | line {text : List Char} : CommentRole.of '/' text = .gap →
      Skips '/' ('/' :: text) (text.dropWhile (· != '\n'))
  | block {text comment after : List Char} : CommentRole.of '*' text = .gap →
      blockComment? 0 text = some (comment, after) → Skips '/' ('*' :: text) after

/-! ## Comments -/

theorem CommentRole.of_append_line {second : Char} (other : second ≠ '\n') (text rest : List Char) :
    of second (text ++ '\n' :: rest) = of second text := by
  match text with
  | [] => simp [of, Ne.symm other]
  | [c] =>
      by_cases inner : c = '!'
      · simp [of, inner]
      · simp [of, Ne.symm other]
  | c :: d :: text =>
      by_cases inner : c = '!'
      · simp [of, inner]
      · simp [of]

theorem lineComment_eq (text : List Char) :
    ∃ comment, lineComment text = (comment, text.dropWhile (· != '\n')) := by
  have rest : text.drop (Text.firstLine text).length = text.dropWhile (· != '\n') := by
    calc text.drop (Text.firstLine text).length
        = (Text.firstLine text ++ text.dropWhile (· != '\n')).drop (Text.firstLine text).length := by
          rw [Text.firstLine, List.takeWhile_append_dropWhile]
      _ = text.dropWhile (· != '\n') := List.drop_left
  rw [lineComment, rest]
  split
  · exact ⟨_, rfl⟩
  · exact ⟨_, rfl⟩

theorem dropWhile_append_line (text rest : List Char) :
    (text ++ '\n' :: rest).dropWhile (· != '\n') = text.dropWhile (· != '\n') ++ '\n' :: rest := by
  induction text with
  | nil => rfl
  | cons c text ih =>
      by_cases same : c = '\n'
      · subst same
        rfl
      · simp [same, ih]

theorem blockComment?_append {depth : Nat} {text comment after : List Char}
    (read : blockComment? depth text = some (comment, after)) (rest : List Char) :
    blockComment? depth (text ++ rest) = some (comment, after ++ rest) := by
  fun_induction blockComment? depth text generalizing comment after with
  | case1 depth text ih =>
      obtain ⟨⟨inside, behind⟩, read, same⟩ := Option.map_eq_some_iff.mp read
      cases same
      rw [List.cons_append, List.cons_append, blockComment?, ih read]
      rfl
  | case2 text =>
      cases read
      rfl
  | case3 depth text ih =>
      obtain ⟨⟨inside, behind⟩, read, same⟩ := Option.map_eq_some_iff.mp read
      cases same
      rw [List.cons_append, List.cons_append, blockComment?, ih read]
      rfl
  | case4 depth c text opens closes closesInner ih =>
      obtain ⟨⟨inside, behind⟩, read, same⟩ := Option.map_eq_some_iff.mp read
      cases same
      cases text with
      | nil => cases read
      | cons d text =>
          rw [List.cons_append, List.cons_append, blockComment?, ← List.cons_append, ih read]
          · rfl
          · rintro rest rfl same
            exact opens text rfl (by rw [(List.cons.inj same).1])
          · rintro rest rfl rfl same
            exact closes text rfl rfl (by rw [(List.cons.inj same).1])
          · rintro depth rest rfl rfl same
            exact closesInner depth text rfl rfl (by rw [(List.cons.inj same).1])
  | case5 => cases read

theorem suffix_blockComment? {depth : Nat} {text comment after : List Char}
    (read : blockComment? depth text = some (comment, after)) : after <:+ text := by
  fun_induction blockComment? depth text generalizing comment after with
  | case1 depth text ih | case3 depth text ih =>
      obtain ⟨⟨inside, behind⟩, read, same⟩ := Option.map_eq_some_iff.mp read
      cases same
      exact (ih read).trans ((List.suffix_cons _ _).trans (List.suffix_cons _ _))
  | case2 text =>
      cases read
      exact (List.suffix_cons _ _).trans (List.suffix_cons _ _)
  | case4 depth c text opens closes closesInner ih =>
      obtain ⟨⟨inside, behind⟩, read, same⟩ := Option.map_eq_some_iff.mp read
      cases same
      exact (ih read).trans (List.suffix_cons _ _)
  | case5 => cases read

theorem commentTokens?_nil_iff {role : CommentRole} {comment : List Char} :
    commentTokens? role comment = some [] ↔ role = .gap := by
  cases role with
  | gap => simp [commentTokens?]
  | outer => simp [commentTokens?, docTokens, brackets]
  | inner => simp [commentTokens?, innerDocTokens, innerAttribute]

/-! ## Steps of the reader -/

theorem readNext?_nil_iff {c : Char} {text after : List Char} :
    readNext? c text = some ([], after) ↔ Skips c text after := by
  constructor
  · intro read
    unfold readNext? at read
    split at read
    · rename_i text
      obtain ⟨comment, line⟩ := lineComment_eq text
      rw [line] at read
      obtain ⟨tokens, plain, same⟩ := Option.map_eq_some_iff.mp read
      cases same
      exact .line (commentTokens?_nil_iff.mp plain)
    · rename_i text
      obtain ⟨⟨comment, behind⟩, inside, read⟩ := Option.bind_eq_some_iff.mp read
      obtain ⟨tokens, plain, same⟩ := Option.bind_eq_some_iff.mp read
      cases same
      exact .block (commentTokens?_nil_iff.mp plain) inside
    · split at read
      · rename_i gap
        cases read
        exact .gap gap
      · obtain ⟨token, -, same⟩ := Option.map_eq_some_iff.mp read
        cases same
  · rintro (gap | role | ⟨role, read⟩)
    · have other : c ≠ '/' := by
        rintro rfl
        exact absurd gap (by decide)
      unfold readNext?
      split
      · exact absurd rfl other
      · exact absurd rfl other
      · exact if_pos gap
    · rename_i text
      obtain ⟨comment, line⟩ := lineComment_eq text
      show (commentTokens? (.of '/' text) (lineComment text).1).map (·, (lineComment text).2) = _
      rw [line, commentTokens?_nil_iff.mpr role, Option.map_some]
    · rename_i text comment
      show ((blockComment? 0 text).bind fun read =>
        (commentTokens? (.of '*' text) read.1).bind fun tokens => some (tokens, read.2)) = _
      rw [read, Option.bind_some, commentTokens?_nil_iff.mpr role, Option.bind_some]

theorem Skips.suffix {c : Char} {text after : List Char} (skips : Skips c text after) :
    after <:+ text := by
  cases skips with
  | gap => exact List.suffix_refl _
  | line => exact (List.dropWhile_suffix _).trans (List.suffix_cons _ _)
  | block role read => exact (suffix_blockComment? read).trans (List.suffix_cons _ _)

theorem Skips.append_line {c : Char} {text after : List Char} (skips : Skips c text after)
    (rest : List Char) : Skips c (text ++ '\n' :: rest) (after ++ '\n' :: rest) := by
  cases skips with
  | gap gap => exact .gap gap
  | line role =>
      rename_i text
      rw [← dropWhile_append_line]
      exact .line ((CommentRole.of_append_line (by decide) text rest).trans role)
  | block role read =>
      rename_i text comment
      exact .block ((CommentRole.of_append_line (by decide) text rest).trans role)
        (blockComment?_append read _)

/-! ## Texts without tokens -/

inductive Passes : List Char → List Char → Prop
  | done (text : List Char) : Passes text text
  | step {c : Char} {text after rest : List Char} : Skips c text after → Passes after rest →
      Passes (c :: text) rest

theorem Passes.trans {text middle rest : List Char} (first : Passes text middle)
    (second : Passes middle rest) : Passes text rest := by
  induction first with
  | done => exact second
  | step skips _ ih => exact .step skips (ih second)

theorem Skips.passes_iff {c : Char} {text after : List Char} (skips : Skips c text after) :
    Passes (c :: text) [] ↔ Passes after [] := by
  constructor
  · rintro (_ | ⟨other, passes⟩)
    have same := (readNext?_nil_iff.mpr other).symm.trans (readNext?_nil_iff.mpr skips)
    cases same
    exact passes
  · exact .step skips

theorem Passes.append_line {text : List Char} (passes : Passes text []) (rest : List Char) :
    Passes (text ++ '\n' :: rest) rest := by
  generalize whole : ([] : List Char) = behind at passes
  induction passes with
  | done text =>
      subst whole
      exact .step (.gap (by decide)) (.done rest)
  | step skips _ ih => exact .step (skips.append_line rest) (ih whole)

theorem scanSteps_nil_iff {steps : Nat} {text : List Char} (enough : text.length ≤ steps) :
    scanSteps steps text = some [] ↔ Passes text [] := by
  induction steps generalizing text with
  | zero =>
      obtain rfl := List.eq_nil_of_length_eq_zero (Nat.le_zero.mp enough)
      exact ⟨fun _ => .done [], fun _ => rfl⟩
  | succ steps ih =>
      cases text with
      | nil => exact ⟨fun _ => .done [], fun _ => rfl⟩
      | cons c text =>
          have shorter {after : List Char} (skips : Skips c text after) : after.length ≤ steps :=
            Nat.le_trans skips.suffix.length_le (Nat.le_of_succ_le_succ enough)
          constructor
          · intro scanned
            obtain ⟨⟨tokens, after⟩, read, scanned⟩ := Option.bind_eq_some_iff.mp scanned
            obtain ⟨more, scanned, none⟩ := Option.bind_eq_some_iff.mp scanned
            obtain ⟨rfl, rfl⟩ := List.append_eq_nil_iff.mp (Option.some.inj none)
            have skips := readNext?_nil_iff.mp read
            exact .step skips ((ih (shorter skips)).mp scanned)
          · rintro (_ | ⟨skips, passes⟩)
            have scanned := (ih (shorter skips)).mpr passes
            simp only [scanSteps, readNext?_nil_iff.mpr skips, scanned, Option.bind_eq_bind,
              Option.bind_some, List.append_nil]

theorem scan_nil_iff {text : List Char} : scan text = some [] ↔ Passes text [] :=
  scanSteps_nil_iff (Nat.le_refl _)

end NativeBridge.Source
