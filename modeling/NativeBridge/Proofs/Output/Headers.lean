import Mathlib.Tactic.IntervalCases
import NativeBridge.Output.Writing
import NativeBridge.Proofs.Text.Hex

/-!
# Reading fingerprints back from files

A fingerprint is a run of hexadecimal digits, and the writer finds it again in the first line of
every file that carries it.

* `length_digest`, `isBlank_digest`: the form of a fingerprint.
* `recordedFingerprint?_text`: reading it back.
-/

namespace NativeBridge

open Source

/-! ## Digests -/

theorem Text.isBlank_paddedHex {width number : Nat} {c : Char}
    (digit : c ∈ paddedHex width number) :
    isBlank c = false := by
  obtain ⟨value, small, rfl⟩ := exists_digit_of_mem_paddedHex digit
  interval_cases value <;> rfl

theorem length_digest (text : String) : (digest text).toList.length = 64 := by
  have word (word : UInt32) : (Text.paddedHex 8 word.toNat).length = 8 :=
    Text.length_paddedHex (by norm_num) word.toNat_lt
  simp [digest, Sha256.hexDigest, word]

theorem isBlank_digest {text : String} {c : Char} (digit : c ∈ (digest text).toList) :
    Text.isBlank c = false := by
  rw [digest, Sha256.hexDigest, String.toList_ofList] at digit
  obtain ⟨word, -, digit⟩ := List.mem_flatMap.mp digit
  exact Text.isBlank_paddedHex digit

/-! ## Headers -/

theorem afterMark?_append (mark text : List Char) : afterMark? mark (mark ++ text) = some text := by
  induction mark with
  | nil => rfl
  | cons c mark ih => rw [List.cons_append, afterMark?, if_pos rfl, ih]

theorem Text.firstLine_append {line : List Char} (whole : '\n' ∉ line) (rest : List Char) :
    firstLine (line ++ '\n' :: rest) = line := by
  have all : ∀ c ∈ line, (c != '\n') = true := by
    intro c member
    simp only [bne_iff_ne]
    rintro rfl
    exact whole member
  rw [firstLine, List.takeWhile_append_of_pos all]
  simp

theorem Text.trimEnd_append {solid : List Char} (text : List Char) (filled : solid ≠ [])
    (unblank : ∀ c ∈ solid, isBlank c = false) : trimEnd (text ++ solid) = text ++ solid := by
  have last : isBlank (solid.getLast filled) = false := unblank _ (List.getLast_mem filled)
  rw [← List.dropLast_concat_getLast filled, ← List.append_assoc, trimEnd, List.reverse_append,
    List.reverse_singleton, List.singleton_append, List.dropWhile_cons_of_neg (by simp [last]),
    List.reverse_cons, List.reverse_reverse]

theorem recordedFingerprint?_text {file : CodeFile} {source : String} {notices : List String}
    (header : file.header = (fingerprintMark ++ digest source) :: notices) :
    recordedFingerprint? file.text = some (digest source) := by
  have begins : ∃ rest, file.text.toList =
      (fingerprintMark.toList ++ (digest source).toList) ++ '\n' :: rest := by
    refine ⟨(String.join ((notices ++ [""] ++ file.body.map line).map (· ++ "\n"))).toList, ?_⟩
    rw [CodeFile.text, header, List.cons_append, List.cons_append, List.map_cons,
      String.join_cons]
    simp only [String.toList_append, List.append_assoc]
    rfl
  obtain ⟨rest, begins⟩ := begins
  have whole : '\n' ∉ fingerprintMark.toList ++ (digest source).toList := by
    intro member
    rcases List.mem_append.mp member with inMark | inDigest
    · exact absurd inMark (by decide)
    · cases isBlank_digest inDigest
  have filled : (digest source).toList ≠ [] := by
    intro empty
    have length := length_digest source
    rw [empty] at length
    cases length
  rw [recordedFingerprint?, begins, Text.firstLine_append whole,
    Text.trimEnd_append _ filled fun c => isBlank_digest, afterMark?_append, Option.map_some,
    String.ofList_toList]

end NativeBridge
