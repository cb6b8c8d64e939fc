import Mathlib.Tactic.IntervalCases
import NativeBridge.Text.Hex

/-!
# Reading hexadecimal digits back

`ofHex?_paddedHex`: a number is read back from its digits, whatever their width. A number below
`16 ^ width` has exactly `width` padded digits.
-/

namespace NativeBridge.Text

theorem hexValue?_digitChar {digit : Nat} (small : digit < 16) :
    hexValue? digit.digitChar = some digit := by
  interval_cases digit <;> rfl

theorem ofHex?_concat (digits : List Char) (last : Char) :
    ofHex? (digits ++ [last]) =
      (ofHex? digits).bind fun total => (hexValue? last).map (16 * total + ·) := by
  simp [ofHex?, List.foldlM_append]

theorem ofHex?_hexDigits (number : Nat) : ofHex? (hexDigits number) = some number := by
  unfold hexDigits
  induction number using Nat.strongRecOn with
  | ind number ih =>
      rw [Nat.toDigits_eq_if (by norm_num)]
      split
      · rename_i small
        simp [ofHex?, hexValue?_digitChar small]
      · rename_i large
        have digit : number % 16 < 16 := Nat.mod_lt _ (by norm_num)
        rw [ofHex?_concat, ih (number / 16) (by omega), hexValue?_digitChar digit]
        simp only [Option.bind_some, Option.map_some, Option.some.injEq]
        omega

theorem ofHex?_replicate_zero_append (zeros : Nat) (digits : List Char) :
    ofHex? (List.replicate zeros '0' ++ digits) = ofHex? digits := by
  induction zeros with
  | zero => rfl
  | succ zeros ih =>
      rw [List.replicate_succ, List.cons_append, ← ih]
      rfl

theorem ofHex?_paddedHex (width number : Nat) : ofHex? (paddedHex width number) = some number := by
  unfold paddedHex
  rw [ofHex?_replicate_zero_append, ofHex?_hexDigits]

theorem length_paddedHex {width number : Nat} (positive : 0 < width)
    (bound : number < 16 ^ width) : (paddedHex width number).length = width := by
  have short : (hexDigits number).length ≤ width :=
    (Nat.length_toDigits_le_iff (by norm_num) positive).mpr bound
  simp only [paddedHex, List.length_append, List.length_replicate]
  omega

theorem exists_digit_of_mem_hexDigits {number : Nat} {c : Char} (digit : c ∈ hexDigits number) :
    ∃ value < 16, c = value.digitChar := by
  unfold hexDigits at digit
  induction number using Nat.strongRecOn with
  | ind number ih =>
      rw [Nat.toDigits_eq_if (by norm_num)] at digit
      split at digit
      · rename_i small
        exact ⟨number, small, List.mem_singleton.mp digit⟩
      · rename_i large
        rcases List.mem_append.mp digit with before | last
        · exact ih (number / 16) (by omega) before
        · exact ⟨number % 16, Nat.mod_lt _ (by norm_num), List.mem_singleton.mp last⟩

theorem exists_digit_of_mem_paddedHex {width number : Nat} {c : Char}
    (digit : c ∈ paddedHex width number) : ∃ value < 16, c = value.digitChar := by
  rcases List.mem_append.mp digit with zero | digit
  · exact ⟨0, by norm_num, (List.mem_replicate.mp zero).2⟩
  · exact exists_digit_of_mem_hexDigits digit

end NativeBridge.Text
