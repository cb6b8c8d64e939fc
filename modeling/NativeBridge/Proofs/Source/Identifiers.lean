import Mathlib.Data.List.TakeWhile
import NativeBridge.Proofs.Naming.Words
import NativeBridge.Source.Ident

/-!
# Names as identifiers

The names that the generator writes into code are made of ASCII letters, digits and underscores.
Such a name is read as a single word if it does not start with a digit, and a keyword becomes a raw
identifier. What remains are the names that begin no word and the words that are never raw.

* `Ident.ofName_eq`: the identifier for such a name.
-/

namespace NativeBridge

/-! ## Characters -/

namespace Text

variable {c : Char}

theorem isAsciiWord_iff : isAsciiWord c = true ↔
    (97 ≤ c.toNat ∧ c.toNat ≤ 122 ∨ 65 ≤ c.toNat ∧ c.toNat ≤ 90) ∨
      (48 ≤ c.toNat ∧ c.toNat ≤ 57) ∨ c.toNat = 95 := by
  have underscore : c = '_' ↔ c.toNat = 95 := by
    rw [← Char.toNat_inj]
    rfl
  simp only [isAsciiWord, isAsciiLetter, isAsciiDigit, Bool.or_eq_true, Bool.and_eq_true,
    decide_eq_true_eq, beq_iff_eq, underscore, Char.le_def, UInt32.le_iff_toNat_le]
  exact or_assoc

theorem toNat_lt_of_isAsciiWord (word : isAsciiWord c = true) : c.toNat < 0x80 := by
  have range := isAsciiWord_iff.mp word
  omega

theorem isIdentifierContinue_of_isAsciiWord (word : isAsciiWord c = true) :
    isIdentifierContinue c = true := by
  rw [isIdentifierContinue, if_pos (toNat_lt_of_isAsciiWord word), word]

end Text

namespace Source

open Text (isAsciiWord isAsciiDigit isAsciiWord_iff)

variable {c : Char} {rest text : List Char}

theorem isGap_of_isAsciiWord (word : isAsciiWord c = true) : isGap c = false := by
  have range := isAsciiWord_iff.mp word
  have blank : Text.isBlank c = false := by
    simp only [Text.isBlank, Bool.or_eq_false_iff, Bool.and_eq_false_imp, decide_eq_true_eq,
      decide_eq_false_iff_not, beq_eq_false_iff_ne]
    omega
  have notMark : c ≠ '\u200e' ∧ c ≠ '\u200f' := by
    constructor <;> rintro rfl <;> exact absurd word (by decide)
  rw [isGap, blank, beq_false_of_ne notMark.1, beq_false_of_ne notMark.2]
  rfl

theorem startsWord_eq (word : isAsciiWord c = true) : startsWord c = !isAsciiDigit c := by
  have low : c.toNat < 0x80 := Text.toNat_lt_of_isAsciiWord word
  rw [startsWord, Text.isIdentifierStart, if_pos low]
  cases letter : Text.isAsciiLetter c with
  | true => rw [Text.isAsciiDigit_of_isAsciiLetter letter, Bool.true_or, Bool.not_false]
  | false =>
      rw [isAsciiWord, letter, Bool.false_or, Bool.or_eq_true] at word
      rcases word with digit | underscore
      · have other : c ≠ '_' := by
          rintro rfl
          exact absurd digit (by decide)
        rw [digit, beq_false_of_ne other]
        rfl
      · rw [beq_iff_eq.mp underscore]
        rfl

theorem wordOf_eq (chars : text.all isAsciiWord = true) : wordOf text = String.ofList text := by
  have whole : text.takeWhile Text.isIdentifierContinue = text :=
    List.takeWhile_eq_self_iff.mpr fun c member =>
      Text.isIdentifierContinue_of_isAsciiWord (List.all_eq_true.mp chars c member)
  rw [wordOf, whole]

theorem afterWord_eq (chars : text.all isAsciiWord = true) : afterWord text = [] :=
  List.dropWhile_eq_nil_iff.mpr fun c member =>
    Text.isIdentifierContinue_of_isAsciiWord (List.all_eq_true.mp chars c member)

/-! ## Tokens -/

theorem scan_whole {token : Token} (next : readNext? c rest = some ([token], [])) :
    scan (c :: rest) = some [token] := by
  rw [scan, List.length_cons, scanSteps, next]
  cases rest <;> rfl

theorem scan_fails (next : readNext? c rest = none) : scan (c :: rest) = none := by
  rw [scan, List.length_cons, scanSteps, next]
  rfl

theorem scan_starts {token : Token} {tokens : List Token} {after : List Char}
    (next : readNext? c rest = some ([token], after)) (scanned : scan (c :: rest) = some tokens) :
    ∃ more, tokens = token :: more := by
  rw [scan, List.length_cons, scanSteps, next, Option.bind_eq_bind, Option.bind_some] at scanned
  obtain ⟨more, -, made⟩ := Option.bind_eq_some_iff.mp scanned
  exact ⟨more, (Option.some.inj made).symm⟩

section Words

variable (chars : (c :: rest).all isAsciiWord = true)
include chars

theorem readWord?_eq (token : String → Token) (starts : isAsciiDigit c = false) :
    readWord? token (c :: rest) = some (token (String.ofList (c :: rest)), []) := by
  obtain ⟨first, others⟩ := Bool.and_eq_true_iff.mp (List.all_cons ▸ chars)
  rw [readWord?, startsWord_eq first, starts, Bool.not_false, if_pos rfl, wordOf_eq chars,
    afterWord_eq others]

theorem readRawWord?_eq : readRawWord? (c :: rest) =
    if isAsciiDigit c = false ∧ String.ofList (c :: rest) ∉ neverRaw then
      some (.rawWord (String.ofList (c :: rest)), [])
    else none := by
  obtain ⟨first, -⟩ := Bool.and_eq_true_iff.mp (List.all_cons ▸ chars)
  rw [readRawWord?, wordOf_eq chars]
  cases digit : isAsciiDigit c with
  | false => rw [readWord?_eq chars _ digit]; simp
  | true => rw [readWord?, startsWord_eq first, digit]; simp

theorem readNext?_eq : readNext? c rest =
    (readToken? c rest).map fun (token, rest) => ([token], rest) := by
  obtain ⟨first, -⟩ := Bool.and_eq_true_iff.mp (List.all_cons ▸ chars)
  unfold readNext?
  split
  · exact absurd first (by decide)
  · exact absurd first (by decide)
  · rw [isGap_of_isAsciiWord first]
    rfl

theorem readToken?_word (starts : isAsciiDigit c = false) :
    readToken? c rest = some (.word (String.ofList (c :: rest)), []) := by
  obtain ⟨first, others⟩ := Bool.and_eq_true_iff.mp (List.all_cons ▸ chars)
  unfold readToken?
  -- Only a raw word begins like a name, and its second character is a mark.
  split
  · exact absurd others (by simp [show isAsciiWord '#' = false from rfl])
  · exact absurd first (by decide)
  · exact absurd first (by decide)
  · exact absurd first (by decide)
  · rw [startsWord_eq first, starts, Bool.not_false, if_pos rfl, readWord?_eq chars _ starts]

theorem readToken?_digit (digit : isAsciiDigit c = true) {token : Token} {after : List Char}
    (read : readToken? c rest = some (token, after)) : ∃ number, token = .number number := by
  obtain ⟨first, others⟩ := Bool.and_eq_true_iff.mp (List.all_cons ▸ chars)
  unfold readToken? at read
  split at read
  · exact absurd others (by simp [show isAsciiWord '#' = false from rfl])
  · exact absurd first (by decide)
  · exact absurd first (by decide)
  · exact absurd first (by decide)
  · rw [startsWord_eq first, digit, Bool.not_true, if_neg Bool.false_ne_true, if_pos rfl] at read
    obtain ⟨rest, -, made⟩ := Option.map_eq_some_iff.mp read
    exact ⟨_, (Prod.mk.inj made).1.symm⟩

theorem scan_word (starts : isAsciiDigit c = false) :
    scan (c :: rest) = some [.word (String.ofList (c :: rest))] := by
  refine scan_whole ?_
  rw [readNext?_eq chars, readToken?_word chars starts]
  rfl

theorem scan_digit (digit : isAsciiDigit c = true) {token : Token}
    (scanned : scan (c :: rest) = some [token]) : ∃ number, token = .number number := by
  have next := readNext?_eq chars
  cases read : readToken? c rest with
  | none =>
      rw [read] at next
      rw [scan_fails next] at scanned
      cases scanned
  | some reading =>
      obtain ⟨first, after⟩ := reading
      rw [read] at next
      obtain ⟨more, same⟩ := scan_starts next scanned
      obtain ⟨rfl, -⟩ := List.cons.inj same
      exact readToken?_digit chars digit read

end Words

/-! ## Names -/

theorem tokens?_eq {name : String} (chars : name.toList.all isAsciiWord = true) :
    tokens? name = scan name.toList := by
  unfold tokens?
  split
  · rename_i mark
    rw [mark] at chars
    exact absurd (Bool.and_eq_true_iff.mp (List.all_cons ▸ chars)).1 (by decide)
  · rfl

def IsWritable (name : String) : Prop :=
  isAsciiIdentifier name.toList = true ∧ name ∉ neverRaw

instance (name : String) : Decidable (IsWritable name) :=
  inferInstanceAs (Decidable (_ ∧ _))

namespace Ident

variable {name : String} (chars : name.toList.all isAsciiWord = true)
include chars

theorem ofText?_name : ofText? name =
    if isAsciiIdentifier name.toList = true ∧ ¬(name = "_" ∨ name ∈ keywords) then some { name }
    else none := by
  rw [ofText?, tokens?_eq chars]
  cases text : name.toList with
  | nil => rfl
  | cons c rest =>
      rw [text] at chars
      have whole : String.ofList (c :: rest) = name := by rw [← text, String.ofList_toList]
      cases digit : isAsciiDigit c with
      | false =>
          have identifier : isAsciiIdentifier (c :: rest) = true := by
            rw [isAsciiIdentifier, digit, chars]
            rfl
          rw [scan_word chars digit, whole]
          simp only [ofToken?, identifier, true_and, ite_not]
      | true =>
          rw [if_neg (by simp [isAsciiIdentifier, digit])]
          split
          · rename_i scanned
            obtain ⟨number, rfl⟩ := scan_digit chars digit scanned
            rfl
          · rfl

theorem ofText?_raw : ofText? ("r#" ++ name) =
    if IsWritable name then some { name, isRaw := true } else none := by
  have text : ("r#" ++ name).toList = 'r' :: '#' :: name.toList := String.toList_append
  have next : readNext? 'r' ('#' :: name.toList) =
      (readRawWord? name.toList).map fun (token, rest) => ([token], rest) := rfl
  have tokens : tokens? ("r#" ++ name) = scan ('r' :: '#' :: name.toList) := by
    rw [tokens?, text]
    rfl
  rw [ofText?, tokens]
  cases shape : name.toList with
  | nil =>
      rw [shape] at next
      rw [scan_fails next, if_neg (by simp [IsWritable, shape, isAsciiIdentifier])]
  | cons c rest =>
      rw [shape] at chars
      have whole : String.ofList (c :: rest) = name := by rw [← shape, String.ofList_toList]
      have writable : IsWritable name ↔ isAsciiDigit c = false ∧ name ∉ neverRaw := by
        rw [IsWritable, shape, isAsciiIdentifier, chars, Bool.and_true, Bool.not_eq_true']
      rw [shape, readRawWord?_eq chars, whole] at next
      by_cases holds : isAsciiDigit c = false ∧ name ∉ neverRaw
      · rw [if_pos holds] at next
        rw [scan_whole next, if_pos (writable.mpr holds)]
        rfl
      · rw [if_neg holds] at next
        rw [scan_fails next, if_neg (fun found => holds (writable.mp found))]

theorem ofName_eq : ofName name =
    if IsWritable name then .ok { name, isRaw := decide (name ∈ keywords) }
    else .error (.notIdentifier name) := by
  -- Hence a name that is refused as a raw identifier is refused as a plain one too.
  have never : ∀ word ∈ neverRaw, word = "_" ∨ word ∈ keywords := by decide
  rw [ofName, ofText?_name chars, ofText?_raw chars]
  by_cases plain : isAsciiIdentifier name.toList = true ∧ ¬(name = "_" ∨ name ∈ keywords)
  · have writable : IsWritable name := ⟨plain.1, fun member => plain.2 (never name member)⟩
    have notKeyword : name ∉ keywords := fun member => plain.2 (.inr member)
    rw [if_pos plain, decide_eq_false notKeyword]
    simp only [if_pos writable]
  · rw [if_neg plain]
    by_cases writable : IsWritable name
    · have keyword : name ∈ keywords := by
        by_contra notKeyword
        refine plain ⟨writable.1, ?_⟩
        rintro (rfl | keyword)
        · exact writable.2 (by decide)
        · exact notKeyword keyword
      simp only [writable, keyword, if_true, decide_true]
    · simp only [writable, if_false]

end Ident

end Source

end NativeBridge
