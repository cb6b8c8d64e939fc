import NativeBridge.Planning.Options
import NativeBridge.Proofs.Naming.Layout

/-!
# Characters of identifiers

* `all_isAsciiWord_bindingIdent`: the name of a module is made of letters, digits and underscores.
-/

namespace NativeBridge

theorem Text.all_isAsciiWord_paddedHex (width number : Nat) :
    (paddedHex width number).all isAsciiWord = true := by
  rw [List.all_eq_true]
  intro c digit
  obtain ⟨value, small, rfl⟩ := exists_digit_of_mem_paddedHex digit
  interval_cases value <;> rfl

theorem all_isAsciiWord_segmentChar (isFirst : Bool) (c : Char) :
    (segmentChar isFirst c).all Text.isAsciiWord = true := by
  rw [segmentChar]
  split
  · grind [Text.isAsciiWord]
  split
  · rfl
  · rw [List.all_append, Text.all_isAsciiWord_paddedHex]
    rfl

namespace Mark

theorem all_isAsciiWord_ident (atStart : Bool) (mark : Mark) :
    (mark.ident atStart).all Text.isAsciiWord = true := by
  cases mark with
  | char c => exact all_isAsciiWord_segmentChar atStart c
  | separator | nested | argument | close => rfl

theorem all_isAsciiWord_identOf (atStart : Bool) (marks : List Mark) :
    (identOf atStart marks).all Text.isAsciiWord = true := by
  induction marks generalizing atStart with
  | nil => rfl
  | cons mark rest ih => rw [identOf, List.all_append, all_isAsciiWord_ident, ih, Bool.and_self]

end Mark

theorem Options.suffix_word {options : Options} (valid : options.validate = .ok ()) :
    options.suffix.toList.all Text.isAsciiWord = true := by
  rw [validate] at valid
  grind

theorem TypeRef.all_isAsciiWord_bindingIdent (type : TypeRef) {suffix : String}
    (word : suffix.toList.all Text.isAsciiWord = true) :
    (type.bindingIdent suffix).toList.all Text.isAsciiWord = true := by
  rw [bindingIdent, ident, String.toList_append, String.toList_ofList, List.all_append,
    identChars_eq, Mark.all_isAsciiWord_identOf, word, Bool.and_self]

end NativeBridge
