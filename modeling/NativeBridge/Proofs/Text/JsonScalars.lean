import NativeBridge.Proofs.Text.Hex
import NativeBridge.Text.JsonReader

/-!
# Reading strings and numbers back

A string is read back from its written form up to the closing quote, whatever follows. An integer is
read back when what follows it cannot be read as more of the number.

* `readKey_stringChars`: strings.
* `readNumber_toString`: integers.
-/

namespace NativeBridge.Json

/-! ## Strings -/

/-- What a written character is read as: a control character without a name of its own is read as a
code unit. -/
def unitOf (c : Char) : StringUnit :=
  if c ∈ ['\x08', '\x0c', '\n', '\r', '\t'] then .char c
  else if c.toNat < 0x20 then .unit c.toNat
  else .char c

theorem readUnits_unit {a b c d : Char} {n : Nat} (digits : Text.ofHex? [a, b, c, d] = some n)
    (rest : List Char) :
    readUnits ('\\' :: 'u' :: a :: b :: c :: d :: rest) =
      (readUnits rest).map fun (units, rest) => (.unit n :: units, rest) := by
  rw [readUnits, digits]
  cases readUnits rest <;> rfl

theorem readUnits_plain {c : Char} (large : ¬ c.toNat < 0x20) (quote : c ≠ '"')
    (backslash : c ≠ '\\') (rest : List Char) :
    readUnits (c :: rest) =
      (readUnits rest).map fun (units, rest) => (.char c :: units, rest) := by
  rw [readUnits.eq_def]
  split
  · rename_i same
    exact absurd (List.cons.inj same).1 quote
  · rename_i same
    exact absurd (List.cons.inj same).1 backslash
  · rename_i same
    exact absurd (List.cons.inj same).1 backslash
  · rename_i same
    obtain ⟨rfl, rfl⟩ := List.cons.inj same
    rw [if_neg (by simp [large, backslash])]
    cases readUnits rest <;> rfl
  · rename_i same
    cases same

theorem readUnits_escapedChar (c : Char) (rest : List Char) :
    readUnits (escapedChar c ++ rest) =
      (readUnits rest).map fun (units, rest) => (unitOf c :: units, rest) := by
  unfold escapedChar
  split
  iterate 7
    · rw [List.cons_append, List.cons_append, List.nil_append, readUnits]
      · cases readUnits rest <;> rfl
      · exact nofun
  · rename_i quote backslash b f n r t
    have unnamed : c ∉ ['\x08', '\x0c', '\n', '\r', '\t'] := by
      simp only [List.mem_cons, List.not_mem_nil, or_false, not_or]
      exact ⟨b, f, n, r, t⟩
    rw [unitOf, if_neg unnamed]
    by_cases small : c.toNat < 0x20
    · rw [if_pos small, if_pos small]
      have length : (Text.paddedHex 4 c.toNat).length = 4 :=
        Text.length_paddedHex (by norm_num) (Nat.lt_trans small (by norm_num))
      have value := Text.ofHex?_paddedHex 4 c.toNat
      generalize Text.paddedHex 4 c.toNat = digits at length value ⊢
      match digits, length with
      | [_, _, _, _], _ => exact readUnits_unit value rest
    · rw [if_neg small, if_neg small]
      exact readUnits_plain small quote backslash rest

theorem joinUnits_unit {n : Nat} (high : isHighSurrogate n = false)
    (low : isLowSurrogate n = false) (units : List StringUnit) :
    joinUnits (.unit n :: units) = (joinUnits units).map (Char.ofNat n :: ·) := by
  rcases units with - | ⟨c | m, rest⟩ <;> simp [joinUnits, high, low]

theorem joinUnits_unitOf (c : Char) (units : List StringUnit) :
    joinUnits (unitOf c :: units) = (joinUnits units).map (c :: ·) := by
  unfold unitOf
  split
  · rw [joinUnits]
  · split
    · rename_i small
      rw [joinUnits_unit, Char.ofNat_toNat]
      · simp only [isHighSurrogate, Bool.and_eq_false_imp, decide_eq_true_eq]
        omega
      · simp only [isLowSurrogate, Bool.and_eq_false_imp, decide_eq_true_eq]
        omega
    · rw [joinUnits]

theorem readUnits_flatMap (text rest : List Char) :
    readUnits (text.flatMap escapedChar ++ '"' :: rest) = some (text.map unitOf, rest) := by
  induction text with
  | nil => rw [List.flatMap_nil, List.nil_append, readUnits, List.map_nil]
  | cons c text ih =>
      rw [List.flatMap_cons, List.append_assoc, readUnits_escapedChar, ih]
      rfl

theorem joinUnits_map_unitOf (text : List Char) : joinUnits (text.map unitOf) = some text := by
  induction text with
  | nil => rw [List.map_nil, joinUnits]
  | cons c text ih => rw [List.map_cons, joinUnits_unitOf, ih, Option.map_some]

theorem readKey_stringChars (text : String) (rest : List Char) :
    ∃ opened, stringChars text ++ rest = '"' :: opened ∧
      readKey opened = some (some text, rest) := by
  refine ⟨text.toList.flatMap escapedChar ++ '"' :: rest, by simp [stringChars], ?_⟩
  rw [readKey, readUnits_flatMap]
  simp [joinUnits_map_unitOf]

/-! ## Numbers -/

def EndsNumber (rest : List Char) : Prop :=
  ∀ c ∈ rest.head?, isDigit c = false ∧ c ≠ '.' ∧ c ≠ 'e' ∧ c ≠ 'E'

theorem endsNumber_nil : EndsNumber [] := by
  rintro c ⟨⟩

theorem isDigit_toDigits {n : Nat} {c : Char} (digit : c ∈ Nat.toDigits 10 n) :
    isDigit c = true := by
  have decimal := Nat.isDigit_of_mem_toDigits (by norm_num) (by norm_num) digit
  simpa [isDigit, Char.isDigit, Char.le_def] using decimal

theorem takeWhile_digits {digits rest : List Char} (all : ∀ c ∈ digits, isDigit c = true)
    (ends : EndsNumber rest) :
    (digits ++ rest).takeWhile isDigit = digits ∧ (digits ++ rest).dropWhile isDigit = rest := by
  have stop : rest.takeWhile isDigit = [] ∧ rest.dropWhile isDigit = rest := by
    cases rest with
    | nil => exact ⟨rfl, rfl⟩
    | cons c tail =>
        obtain ⟨digit, -⟩ := ends c rfl
        simp [digit]
  rw [List.takeWhile_append_of_pos all, List.dropWhile_append_of_pos all, stop.1, stop.2]
  exact ⟨List.append_nil _, rfl⟩

theorem head?_toDigits {n : Nat} (zero : (Nat.toDigits 10 n).head? = some '0') : n = 0 := by
  induction n using Nat.strongRecOn with
  | ind n ih =>
      rw [Nat.toDigits_eq_if (by norm_num)] at zero
      split at zero
      · rename_i small
        interval_cases n <;> simp_all [Nat.digitChar]
      · rename_i large
        obtain ⟨c, tail, digits⟩ := List.exists_cons_of_ne_nil
          (Nat.toDigits_ne_nil (n := n / 10) (b := 10))
        rw [digits] at zero
        have := ih (n / 10) (by omega) (digits ▸ zero)
        omega

theorem readInteger_toDigits (n : Nat) {rest : List Char} (ends : EndsNumber rest) :
    readInteger (Nat.toDigits 10 n ++ rest) = some (Nat.toDigits 10 n, rest) := by
  obtain ⟨taken, left⟩ := takeWhile_digits (fun c => isDigit_toDigits (n := n)) ends
  rw [readInteger, taken, left]
  split
  · rename_i none
    exact absurd none Nat.toDigits_ne_nil
  · rename_i zero
    have value := head?_toDigits (n := n) (by rw [zero]; rfl)
    rw [value] at zero
    cases zero
  · rfl

theorem readFraction_ends {rest : List Char} (ends : EndsNumber rest) :
    readFraction rest = some ([], rest) := by
  rw [readFraction.eq_def]
  split
  · obtain ⟨-, point, -⟩ := ends '.' rfl
    exact absurd rfl point
  · rfl

theorem readExponent_ends {rest : List Char} (ends : EndsNumber rest) :
    readExponent rest = some ([], rest) := by
  cases rest with
  | nil => rfl
  | cons c tail =>
      obtain ⟨-, -, lower, upper⟩ := ends c rfl
      rw [readExponent.eq_def]
      exact if_neg (by simp [lower, upper])

theorem ofDigits_toDigits (n : Nat) : ofDigits (Nat.toDigits 10 n) = n :=
  Nat.ofDigitChars_ten_toDigits

theorem readNumber_toString (n : Int) {rest : List Char} (ends : EndsNumber rest) :
    readNumber ((toString n).toList ++ rest) = some (.int n, rest) := by
  cases n with
  | ofNat m =>
      have text : (toString (Int.ofNat m)).toList = Nat.toDigits 10 m := Nat.toList_repr
      have read := readInteger_toDigits m ends
      have unsigned : ∀ after, Nat.toDigits 10 m ++ rest = '-' :: after → False := by
        intro after same
        obtain ⟨c, tail, digits⟩ := List.exists_cons_of_ne_nil
          (Nat.toDigits_ne_nil (n := m) (b := 10))
        rw [digits, List.cons_append] at same
        have sign : '-' ∈ Nat.toDigits 10 m := by
          rw [digits, (List.cons.inj same).1]
          exact List.mem_cons_self
        cases isDigit_toDigits sign
      rw [text, readNumber]
      · simp [read, readFraction_ends ends, readExponent_ends ends, ofDigits_toDigits]
      · exact unsigned
  | negSucc m =>
      have text : (toString (Int.negSucc m)).toList = '-' :: Nat.toDigits 10 (m + 1) := by
        rw [Int.toString_eq_repr, Int.repr, String.toList_append, Nat.toList_repr]
        rfl
      have read := readInteger_toDigits (m + 1) ends
      rw [text, List.cons_append, readNumber]
      simp [read, readFraction_ends ends, readExponent_ends ends, ofDigits_toDigits,
        Int.negSucc_eq]

end NativeBridge.Json
