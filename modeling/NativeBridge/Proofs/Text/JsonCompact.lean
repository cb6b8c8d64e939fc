import Mathlib.Data.List.DropRight
import NativeBridge.Proofs.Text.JsonScalars

/-!
# Reading compact text back

Without literals, a value is read back from its compact form, and the reader stops where the value
ends. Hence no compact text begins another one.

* `readValue_compactChars`: reading, by recursion on the value.
* `parse_compact`: reading of the whole text.
* `compactChars_inj`: unique reading.
-/

namespace NativeBridge.Json

mutual

def isPlain : Json → Bool
  | literal _ => false
  | array items => arePlain items
  | object members => membersPlain members
  | _ => true

def arePlain : List Json → Bool
  | [] => true
  | item :: rest => item.isPlain && arePlain rest

def membersPlain : List (String × Json) → Bool
  | [] => true
  | (_, value) :: rest => value.isPlain && membersPlain rest

end

theorem arePlain_iff {items : List Json} :
    arePlain items = true ↔ ∀ item ∈ items, item.isPlain = true := by
  induction items with
  | nil => simp [arePlain]
  | cons item rest ih => simp [arePlain, ih]

theorem membersPlain_iff {members : List (String × Json)} :
    membersPlain members = true ↔ ∀ member ∈ members, member.2.isPlain = true := by
  induction members with
  | nil => simp [membersPlain]
  | cons member rest ih => simp [membersPlain, ih]

theorem membersPlain_append (members others : List (String × Json)) :
    membersPlain (members ++ others) = (membersPlain members && membersPlain others) := by
  rw [Bool.eq_iff_iff]
  simp only [Bool.and_eq_true, membersPlain_iff, List.forall_mem_append]

/-! ## What a text begins with -/

theorem skipBlank_cons {c : Char} (seen : isBlank c = false) (rest : List Char) :
    skipBlank (c :: rest) = c :: rest := by
  rw [skipBlank, List.dropWhile_cons_of_neg (by simp [seen])]

theorem skipBlank_skipBlank (text : List Char) : skipBlank (skipBlank text) = skipBlank text :=
  List.dropWhile_idempotent _ _

theorem endsNumber_cons {c : Char}
    (ends : isDigit c = false ∧ c ≠ '.' ∧ c ≠ 'e' ∧ c ≠ 'E') (rest : List Char) :
    EndsNumber (c :: rest) := by
  rintro other ⟨⟩
  exact ends

theorem number_start (n : Int) :
    ∃ c tail, (toString n).toList = c :: tail ∧ (c = '-' ∨ isDigit c = true) := by
  cases n with
  | ofNat m =>
      obtain ⟨c, tail, digits⟩ := List.exists_cons_of_ne_nil
        (Nat.toDigits_ne_nil (n := m) (b := 10))
      have text : (toString (Int.ofNat m)).toList = Nat.toDigits 10 m := Nat.toList_repr
      refine ⟨c, tail, text.trans digits, .inr (isDigit_toDigits (n := m) ?_)⟩
      rw [digits]
      exact List.mem_cons_self
  | negSucc m =>
      refine ⟨'-', (m + 1).repr.toList, ?_, .inl rfl⟩
      rw [Int.toString_eq_repr, Int.repr, String.toList_append]
      rfl

theorem isBlank_number {c : Char} (number : c = '-' ∨ isDigit c = true) : isBlank c = false := by
  rw [← Bool.not_eq_true, isBlank]
  simp only [Bool.or_eq_true, beq_iff_eq]
  rintro (((rfl | rfl) | rfl) | rfl) <;> exact absurd number (by decide)

theorem compactChars_start {value : Json} (plain : value.isPlain = true) :
    ∃ c tail, compactChars value = c :: tail ∧ isBlank c = false ∧ c ≠ ']' := by
  cases value with
  | null => exact ⟨_, _, rfl, rfl, by decide⟩
  | bool b => cases b <;> exact ⟨_, _, rfl, rfl, by decide⟩
  | int n =>
      obtain ⟨c, tail, text, number⟩ := number_start n
      refine ⟨c, tail, text, ?_⟩
      exact ⟨isBlank_number number, by rintro rfl; exact absurd number (by decide)⟩
  | literal text => cases plain
  | string text => exact ⟨_, _, rfl, rfl, by decide⟩
  | array items => exact ⟨_, _, rfl, rfl, by decide⟩
  | object members => exact ⟨_, _, rfl, rfl, by decide⟩

theorem compactItems_start {item : Json} {items : List Json}
    (plain : arePlain (item :: items) = true) :
    ∃ c tail, compactItems (item :: items) = c :: tail ∧ isBlank c = false ∧ c ≠ ']' := by
  obtain ⟨c, tail, text, start⟩ := compactChars_start (Bool.and_eq_true_iff.mp plain).1
  cases items with
  | nil => exact ⟨c, tail, text, start⟩
  | cons other items =>
      refine ⟨c, tail ++ ',' :: compactItems (other :: items), ?_, start⟩
      simp [compactItems, text]

theorem compactMembers_start (key : String) (value : Json) (members : List (String × Json)) :
    ∃ tail, compactMembers ((key, value) :: members) = '"' :: tail := by
  cases members with
  | nil => exact ⟨_, rfl⟩
  | cons other members => exact ⟨_, rfl⟩

/-! ## One step of the reader -/

section Blanks

variable (steps : Nat) (text : List Char)

theorem readValue_skipBlank : readValue steps (skipBlank text) = readValue steps text := by
  cases steps with
  | zero => rfl
  | succ steps => simp only [readValue.eq_def (steps + 1), skipBlank_skipBlank]

theorem readItems_skipBlank : readItems steps (skipBlank text) = readItems steps text := by
  cases steps with
  | zero => rfl
  | succ steps => rw [readItems, readItems, readValue_skipBlank]

theorem readMembers_skipBlank : readMembers steps (skipBlank text) = readMembers steps text := by
  cases steps with
  | zero => rfl
  | succ steps => simp only [readMembers.eq_def (steps + 1), skipBlank_skipBlank]

end Blanks

theorem readValue_number {c : Char} (number : c = '-' ∨ isDigit c = true) (steps : Nat)
    (tail : List Char) : readValue (steps + 1) (c :: tail) = readNumber (c :: tail) := by
  rw [readValue, skipBlank_cons (isBlank_number number)]
  split
  iterate 6
    · rename_i same
      rw [(List.cons.inj same).1] at number
      exact absurd number (by decide)
  · rfl

theorem readValue_items {c : Char} {text tail : List Char} (start : skipBlank text = c :: tail)
    (opens : c ≠ ']') (steps : Nat) :
    readValue (steps + 1) ('[' :: text) =
      (readItems steps text).map fun (items, rest) => (.array items, rest) := by
  rw [readValue, skipBlank_cons rfl, ← readItems_skipBlank]
  simp only [start]
  split
  · rename_i same
    exact absurd (List.cons.inj same).1 opens
  · rfl

def keyed (members : List (String × Json)) : List (Option String × Json) :=
  members.map fun member => (some member.1, member.2)

theorem ofMembers?_keyed (members : List (String × Json)) :
    ofMembers? (keyed members) = some (.object members) := by
  rw [ofMembers?]
  induction members with
  | nil => rfl
  | cons member rest ih =>
      obtain ⟨named, mapped, made⟩ := Option.bind_eq_some_iff.mp ih
      obtain rfl := Json.object.inj (Option.some.inj made)
      rw [keyed, List.map_cons, List.mapM_cons, ← keyed, mapped]
      rfl

theorem readValue_members (steps : Nat) {text tail rest : List Char}
    {members : List (String × Json)} (start : skipBlank text = '"' :: tail)
    (read : readMembers steps text = some (keyed members, rest)) :
    readValue (steps + 1) ('\x7b' :: text) = some (.object members, rest) := by
  rw [readValue, skipBlank_cons rfl]
  simp only [start]
  split
  · rename_i same
    exact absurd (List.cons.inj same).1 (by decide)
  · rw [← start, readMembers_skipBlank, read, Option.bind_eq_bind, Option.bind_some,
      ofMembers?_keyed]
    rfl

theorem readItems_last {steps : Nat} {text after rest : List Char} {item : Json}
    (read : readValue steps text = some (item, after)) (closes : skipBlank after = ']' :: rest) :
    readItems (steps + 1) text = some ([item], rest) := by
  rw [readItems, read, Option.bind_eq_bind, Option.bind_some]
  simp only [closes]

theorem readItems_more {steps : Nat} {text after next rest : List Char} {item : Json}
    {items : List Json} (read : readValue steps text = some (item, after))
    (continues : skipBlank after = ',' :: next)
    (others : readItems steps next = some (items, rest)) :
    readItems (steps + 1) text = some (item :: items, rest) := by
  rw [readItems, read, Option.bind_eq_bind, Option.bind_some]
  simp only [continues, others]
  rfl

theorem readMembers_last {steps : Nat} (key : String) {text after rest : List Char} {value : Json}
    (read : readValue steps text = some (value, after))
    (closes : skipBlank after = '\x7d' :: rest) :
    readMembers (steps + 1) (stringChars key ++ ':' :: text) =
      some (keyed [(key, value)], rest) := by
  obtain ⟨opened, quoted, named⟩ := readKey_stringChars key (':' :: text)
  have blank : skipBlank (':' :: text) = ':' :: text := rfl
  rw [quoted, readMembers, skipBlank_cons rfl]
  simp only [named, Option.bind_eq_bind, Option.bind_some, blank, read, closes]
  rfl

theorem readMembers_more {steps : Nat} (key : String) {text after next rest : List Char}
    {value : Json} {members : List (String × Json)}
    (read : readValue steps text = some (value, after))
    (continues : skipBlank after = ',' :: next)
    (others : readMembers steps next = some (keyed members, rest)) :
    readMembers (steps + 1) (stringChars key ++ ':' :: text) =
      some (keyed ((key, value) :: members), rest) := by
  obtain ⟨opened, quoted, named⟩ := readKey_stringChars key (':' :: text)
  have blank : skipBlank (':' :: text) = ':' :: text := rfl
  rw [quoted, readMembers, skipBlank_cons rfl]
  simp only [named, Option.bind_eq_bind, Option.bind_some, blank, read, continues, others]
  rfl

/-! ## Whole values -/

mutual

theorem readValue_compactChars : ∀ value : Json, value.isPlain = true →
    ∀ {steps : Nat} {rest : List Char}, EndsNumber rest → (compactChars value).length ≤ steps →
      readValue steps (compactChars value ++ rest) = some (value, rest)
  | value, plain, 0, rest, ends, enough => by
      obtain ⟨c, tail, text, -⟩ := compactChars_start plain
      rw [text] at enough
      cases enough
  | .null, _, steps + 1, rest, _, _ => rfl
  | .bool true, _, steps + 1, rest, _, _ => rfl
  | .bool false, _, steps + 1, rest, _, _ => rfl
  | .int n, _, steps + 1, rest, ends, _ => by
      obtain ⟨c, tail, text, number⟩ := number_start n
      have read := readNumber_toString n ends
      rw [text] at read
      rw [compactChars, text]
      exact (readValue_number number steps (tail ++ rest)).trans read
  | .literal text, plain, _, _, _, _ => by cases plain
  | .string text, _, steps + 1, rest, _, _ => by
      obtain ⟨opened, quoted, named⟩ := readKey_stringChars text rest
      rw [compactChars, quoted, readValue, skipBlank_cons rfl]
      simp only [readString, named]
      rfl
  | .array [], _, steps + 1, rest, _, _ => rfl
  | .array (item :: items), plain, steps + 1, rest, _, enough => by
      have inside : readItems steps (compactItems (item :: items) ++ ']' :: rest) =
          some (item :: items, rest) := by
        refine readItems_compactItems item items plain ?_
        simp only [compactChars, List.length_append, List.length_cons, List.length_nil] at enough
        omega
      obtain ⟨c, tail, text, seen, opens⟩ := compactItems_start plain
      have whole : compactChars (.array (item :: items)) ++ rest =
          '[' :: c :: (tail ++ ']' :: rest) := by
        simp [compactChars, text]
      rw [text, List.cons_append] at inside
      rw [whole, readValue_items (skipBlank_cons seen _) opens, inside]
      rfl
  | .object [], _, steps + 1, rest, _, _ => rfl
  | .object ((key, value) :: members), plain, steps + 1, rest, _, enough => by
      have inside : readMembers steps (compactMembers ((key, value) :: members) ++ '\x7d' :: rest) =
          some (keyed ((key, value) :: members), rest) := by
        refine readMembers_compactMembers key value members plain ?_
        simp only [compactChars, List.length_append, List.length_cons, List.length_nil] at enough
        omega
      obtain ⟨tail, text⟩ := compactMembers_start key value members
      have whole : compactChars (.object ((key, value) :: members)) ++ rest =
          '\x7b' :: '"' :: (tail ++ '\x7d' :: rest) := by
        simp [compactChars, text]
      rw [text, List.cons_append] at inside
      rw [whole]
      exact readValue_members steps (skipBlank_cons rfl _) inside

theorem readItems_compactItems : ∀ (item : Json) (items : List Json),
    arePlain (item :: items) = true →
      ∀ {steps : Nat} {rest : List Char}, (compactItems (item :: items)).length < steps →
        readItems steps (compactItems (item :: items) ++ ']' :: rest) =
          some (item :: items, rest)
  | item, [], plain, steps + 1, rest, enough =>
      readItems_last (readValue_compactChars item (Bool.and_eq_true_iff.mp plain).1
        (endsNumber_cons (by decide) rest) (Nat.lt_succ_iff.mp enough)) rfl
  | item, other :: items, plain, steps + 1, rest, enough => by
      obtain ⟨here, there⟩ := Bool.and_eq_true_iff.mp plain
      have text : compactItems (item :: other :: items) =
          compactChars item ++ ',' :: compactItems (other :: items) := by
        simp [compactItems]
      have length := congrArg List.length text
      rw [List.length_append, List.length_cons] at length
      rw [text, List.append_assoc, List.cons_append]
      exact readItems_more
        (readValue_compactChars item here (endsNumber_cons (by decide) _) (by omega)) rfl
        (readItems_compactItems other items there (by omega))

theorem readMembers_compactMembers : ∀ (key : String) (value : Json)
    (members : List (String × Json)), membersPlain ((key, value) :: members) = true →
      ∀ {steps : Nat} {rest : List Char},
        (compactMembers ((key, value) :: members)).length < steps →
          readMembers steps (compactMembers ((key, value) :: members) ++ '\x7d' :: rest) =
            some (keyed ((key, value) :: members), rest)
  | key, value, [], plain, steps + 1, rest, enough => by
      have text : compactMembers [(key, value)] = stringChars key ++ ':' :: compactChars value := by
        simp [compactMembers]
      have length := congrArg List.length text
      rw [List.length_append, List.length_cons] at length
      rw [text, List.append_assoc, List.cons_append]
      exact readMembers_last key (readValue_compactChars value (Bool.and_eq_true_iff.mp plain).1
        (endsNumber_cons (by decide) rest) (by omega)) rfl
  | key, value, (other, inner) :: members, plain, steps + 1, rest, enough => by
      obtain ⟨here, there⟩ := Bool.and_eq_true_iff.mp plain
      have text : compactMembers ((key, value) :: (other, inner) :: members) =
          stringChars key ++ ':' :: (compactChars value ++
            ',' :: compactMembers ((other, inner) :: members)) := by
        simp [compactMembers]
      have length := congrArg List.length text
      simp only [List.length_append, List.length_cons] at length
      rw [text, List.append_assoc, List.cons_append, List.append_assoc, List.cons_append]
      exact readMembers_more key
        (readValue_compactChars value here (endsNumber_cons (by decide) _) (by omega)) rfl
        (readMembers_compactMembers other inner members there (by omega))

end

theorem parse_compact {value : Json} (plain : value.isPlain = true) :
    parse value.compact = some value := by
  have text : value.compact.toList = compactChars value := String.toList_ofList
  have read : readValue (2 * (compactChars value).length + 2) (compactChars value ++ []) =
      some (value, []) :=
    readValue_compactChars value plain endsNumber_nil (by omega)
  rw [List.append_nil] at read
  rw [parse, parseChars, text, read]
  rfl

theorem compactChars_inj {value other : Json} (plain : value.isPlain = true)
    (plain' : other.isPlain = true) {rest rest' : List Char} (ends : EndsNumber rest)
    (ends' : EndsNumber rest') (same : compactChars value ++ rest = compactChars other ++ rest') :
    value = other ∧ rest = rest' := by
  -- One reader gets through either value, and it has one answer.
  let steps := (compactChars value).length + (compactChars other).length
  have read : readValue steps (compactChars value ++ rest) = some (value, rest) :=
    readValue_compactChars value plain ends (Nat.le_add_right _ _)
  have read' : readValue steps (compactChars other ++ rest') = some (other, rest') :=
    readValue_compactChars other plain' ends' (Nat.le_add_left _ _)
  rw [same, read'] at read
  obtain ⟨rfl, rfl⟩ := Prod.mk.inj (Option.some.inj read)
  exact ⟨rfl, rfl⟩

end NativeBridge.Json
