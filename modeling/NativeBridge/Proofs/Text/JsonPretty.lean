import NativeBridge.Proofs.Text.JsonCompact

/-!
# Reading pretty text back

In its pretty form, every item and member of a value stands on a line of its own. The reader skips
the line ends and the indents, so that it reads the value back as it does from the compact form.

* `readValue_prettyChars`: reading, by recursion on the value.
* `parse_pretty`: reading of the whole text.
-/

namespace NativeBridge.Json

/-! ## Lines -/

theorem skipBlank_newLine (level : Nat) (text : List Char) :
    skipBlank (newLine level ++ text) = skipBlank text := by
  have blank : ∀ c ∈ newLine level, isBlank c = true := by
    intro c member
    rcases List.mem_cons.mp member with rfl | indent
    · rfl
    · rw [(List.mem_replicate.mp indent).2]
      rfl
  exact List.dropWhile_append_of_pos blank

theorem readValue_newLine (steps level : Nat) (text : List Char) :
    readValue steps (newLine level ++ text) = readValue steps text := by
  rw [← readValue_skipBlank, skipBlank_newLine, readValue_skipBlank]

theorem readValue_blank (steps : Nat) (text : List Char) :
    readValue steps (' ' :: text) = readValue steps text := by
  rw [← readValue_skipBlank, ← readValue_skipBlank steps text]
  rfl

theorem readMembers_newLine (steps level : Nat) (text : List Char) :
    readMembers steps (newLine level ++ text) = readMembers steps text := by
  rw [← readMembers_skipBlank, skipBlank_newLine, readMembers_skipBlank]

theorem endsNumber_newLine (level : Nat) (text : List Char) :
    EndsNumber (newLine level ++ text) :=
  endsNumber_cons (by decide) _

theorem prettyChars_start (level : Nat) {value : Json} (plain : value.isPlain = true) :
    ∃ c tail, prettyChars level value = c :: tail ∧ isBlank c = false ∧ c ≠ ']' := by
  cases value with
  | array items => cases items <;> exact ⟨_, _, rfl, rfl, by decide⟩
  | object members => cases members <;> exact ⟨_, _, rfl, rfl, by decide⟩
  | _ => exact compactChars_start plain

theorem prettyItems_start (level : Nat) {item : Json} {items : List Json}
    (plain : arePlain (item :: items) = true) (rest : List Char) :
    ∃ c tail, skipBlank (prettyItems level (item :: items) ++ rest) = c :: tail ∧ c ≠ ']' := by
  obtain ⟨c, tail, text, seen, opens⟩ :=
    prettyChars_start level (Bool.and_eq_true_iff.mp plain).1
  cases items with
  | nil =>
      refine ⟨c, tail ++ rest, ?_, opens⟩
      rw [prettyItems, text, List.append_assoc, skipBlank_newLine, List.cons_append,
        skipBlank_cons seen]
  | cons other items =>
      refine ⟨c, tail ++ ',' :: (prettyItems level (other :: items) ++ rest), ?_, opens⟩
      have whole : prettyItems level (item :: other :: items) ++ rest =
          newLine level ++ c :: (tail ++ ',' :: (prettyItems level (other :: items) ++ rest)) := by
        simp [prettyItems, text]
      rw [whole, skipBlank_newLine, skipBlank_cons seen]

theorem prettyMembers_start (level : Nat) (key : String) (value : Json)
    (members : List (String × Json)) (rest : List Char) :
    ∃ tail, skipBlank (prettyMembers level ((key, value) :: members) ++ rest) = '"' :: tail := by
  have quote (tail : List Char) : ∃ more, stringChars key ++ tail = '"' :: more := ⟨_, rfl⟩
  cases members with
  | nil =>
      obtain ⟨more, text⟩ := quote (':' :: ' ' :: (prettyChars level value ++ rest))
      have whole : prettyMembers level [(key, value)] ++ rest = newLine level ++ '"' :: more := by
        simp [prettyMembers, ← text]
      exact ⟨more, by rw [whole, skipBlank_newLine, skipBlank_cons rfl]⟩
  | cons other members =>
      obtain ⟨more, text⟩ := quote (':' :: ' ' :: (prettyChars level value ++
        ',' :: (prettyMembers level (other :: members) ++ rest)))
      have whole : prettyMembers level ((key, value) :: other :: members) ++ rest =
          newLine level ++ '"' :: more := by
        simp [prettyMembers, ← text]
      exact ⟨more, by rw [whole, skipBlank_newLine, skipBlank_cons rfl]⟩

/-! ## Whole values -/

mutual

theorem readValue_prettyChars : ∀ value : Json, value.isPlain = true →
    ∀ {level steps : Nat} {rest : List Char}, EndsNumber rest →
      (prettyChars level value).length ≤ steps →
        readValue steps (prettyChars level value ++ rest) = some (value, rest)
  -- A value without items has the same text in both forms.
  | .null, plain, _, _, _, ends, enough => readValue_compactChars .null plain ends enough
  | .bool b, plain, _, _, _, ends, enough => readValue_compactChars (.bool b) plain ends enough
  | .int n, plain, _, _, _, ends, enough => readValue_compactChars (.int n) plain ends enough
  | .literal text, plain, _, _, _, _, _ => by cases plain
  | .string text, plain, _, _, _, ends, enough =>
      readValue_compactChars (.string text) plain ends enough
  | .array [], plain, _, _, _, ends, enough => readValue_compactChars (.array []) plain ends enough
  | .object [], plain, _, _, _, ends, enough =>
      readValue_compactChars (.object []) plain ends enough
  | .array (item :: items), _, _, 0, _, _, enough => by cases enough
  | .array (item :: items), plain, level, steps + 1, rest, _, enough => by
      have inside : readItems steps (prettyItems (level + 1) (item :: items) ++
          (newLine level ++ ']' :: rest)) = some (item :: items, rest) := by
        refine readItems_prettyItems item items plain ?_
        simp only [prettyChars, List.length_append, List.length_cons, List.length_nil] at enough
        omega
      obtain ⟨c, tail, start, opens⟩ :=
        prettyItems_start (level + 1) plain (newLine level ++ ']' :: rest)
      have whole : prettyChars level (.array (item :: items)) ++ rest =
          '[' :: (prettyItems (level + 1) (item :: items) ++ (newLine level ++ ']' :: rest)) := by
        simp [prettyChars]
      rw [whole, readValue_items start opens, inside]
      rfl
  | .object (_ :: _), _, _, 0, _, _, enough => by cases enough
  | .object ((key, value) :: members), plain, level, steps + 1, rest, _, enough => by
      have inside : readMembers steps (prettyMembers (level + 1) ((key, value) :: members) ++
          (newLine level ++ '\x7d' :: rest)) = some (keyed ((key, value) :: members), rest) := by
        refine readMembers_prettyMembers key value members plain ?_
        simp only [prettyChars, List.length_append, List.length_cons, List.length_nil] at enough
        omega
      obtain ⟨tail, start⟩ :=
        prettyMembers_start (level + 1) key value members (newLine level ++ '\x7d' :: rest)
      have whole : prettyChars level (.object ((key, value) :: members)) ++ rest =
          '\x7b' :: (prettyMembers (level + 1) ((key, value) :: members) ++
            (newLine level ++ '\x7d' :: rest)) := by
        simp [prettyChars]
      rw [whole]
      exact readValue_members steps start inside
termination_by structural _ _ _ steps => steps

theorem readItems_prettyItems : ∀ (item : Json) (items : List Json),
    arePlain (item :: items) = true →
      ∀ {level outer steps : Nat} {rest : List Char},
        (prettyItems level (item :: items)).length < steps →
          readItems steps (prettyItems level (item :: items) ++ (newLine outer ++ ']' :: rest)) =
            some (item :: items, rest)
  | item, [], plain, level, outer, steps + 1, rest, enough => by
      have length : (prettyChars level item).length ≤ steps := by
        simp only [prettyItems, List.length_append] at enough
        omega
      have read : readValue steps (prettyItems level [item] ++ (newLine outer ++ ']' :: rest)) =
          some (item, newLine outer ++ ']' :: rest) := by
        rw [prettyItems, List.append_assoc, readValue_newLine]
        exact readValue_prettyChars item (Bool.and_eq_true_iff.mp plain).1
          (endsNumber_newLine outer _) length
      refine readItems_last read ?_
      rw [skipBlank_newLine, skipBlank_cons rfl]
  | item, other :: items, plain, level, outer, steps + 1, rest, enough => by
      obtain ⟨here, there⟩ := Bool.and_eq_true_iff.mp plain
      have text : prettyItems level (item :: other :: items) = newLine level ++
          (prettyChars level item ++ ',' :: prettyItems level (other :: items)) := by
        simp [prettyItems]
      have length := congrArg List.length text
      simp only [List.length_append, List.length_cons] at length
      have first : (prettyChars level item).length ≤ steps := by omega
      have others : (prettyItems level (other :: items)).length < steps := by omega
      have read (after : List Char) :
          readValue steps (newLine level ++ (prettyChars level item ++ ',' :: after)) =
            some (item, ',' :: after) := by
        rw [readValue_newLine]
        exact readValue_prettyChars item here (endsNumber_cons (by decide) after) first
      rw [text, List.append_assoc, List.append_assoc, List.cons_append]
      exact readItems_more (read _) (skipBlank_cons rfl _)
        (readItems_prettyItems other items there others)
termination_by structural _ _ _ _ _ steps => steps

theorem readMembers_prettyMembers : ∀ (key : String) (value : Json)
    (members : List (String × Json)), membersPlain ((key, value) :: members) = true →
      ∀ {level outer steps : Nat} {rest : List Char},
        (prettyMembers level ((key, value) :: members)).length < steps →
          readMembers steps (prettyMembers level ((key, value) :: members) ++
              (newLine outer ++ '\x7d' :: rest)) =
            some (keyed ((key, value) :: members), rest)
  | key, value, [], plain, level, outer, steps + 1, rest, enough => by
      have text : prettyMembers level [(key, value)] =
          newLine level ++ (stringChars key ++ ':' :: ' ' :: prettyChars level value) := by
        simp [prettyMembers]
      have length := congrArg List.length text
      simp only [List.length_append, List.length_cons] at length
      have enough' : (prettyChars level value).length ≤ steps := by omega
      have read : readValue steps (prettyChars level value ++ (newLine outer ++ '\x7d' :: rest)) =
          some (value, newLine outer ++ '\x7d' :: rest) :=
        readValue_prettyChars value (Bool.and_eq_true_iff.mp plain).1
          (endsNumber_newLine outer _) enough'
      rw [text, List.append_assoc, readMembers_newLine, List.append_assoc]
      refine readMembers_last key ((readValue_blank _ _).trans read) ?_
      rw [skipBlank_newLine, skipBlank_cons rfl]
  | key, value, (other, inner) :: members, plain, level, outer, steps + 1, rest, enough => by
      obtain ⟨here, there⟩ := Bool.and_eq_true_iff.mp plain
      have text : prettyMembers level ((key, value) :: (other, inner) :: members) =
          newLine level ++ (stringChars key ++ ':' :: ' ' :: (prettyChars level value ++
            ',' :: prettyMembers level ((other, inner) :: members))) := by
        simp [prettyMembers]
      have length := congrArg List.length text
      simp only [List.length_append, List.length_cons] at length
      have first : (prettyChars level value).length ≤ steps := by omega
      have others : (prettyMembers level ((other, inner) :: members)).length < steps := by omega
      have read (after : List Char) : readValue steps (prettyChars level value ++ ',' :: after) =
          some (value, ',' :: after) :=
        readValue_prettyChars value here (endsNumber_cons (by decide) after) first
      rw [text, List.append_assoc, readMembers_newLine, List.append_assoc, List.cons_append,
        List.cons_append, List.append_assoc, List.cons_append]
      exact readMembers_more key ((readValue_blank _ _).trans (read _)) (skipBlank_cons rfl _)
        (readMembers_prettyMembers other inner members there others)
termination_by structural _ _ _ _ _ _ steps => steps

end

theorem parse_pretty {value : Json} (plain : value.isPlain = true) :
    parse value.pretty = some value := by
  have text : value.pretty.toList = prettyChars 0 value := String.toList_ofList
  have read : readValue (2 * (prettyChars 0 value).length + 2) (prettyChars 0 value ++ []) =
      some (value, []) :=
    readValue_prettyChars value plain endsNumber_nil (by omega)
  rw [List.append_nil] at read
  rw [parse, parseChars, text, read]
  rfl

end NativeBridge.Json
