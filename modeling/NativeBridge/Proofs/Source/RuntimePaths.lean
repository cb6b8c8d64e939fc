import NativeBridge.Proofs.Results
import NativeBridge.Source.Rendering

/-!
# Paths of the runtime

* `runtimePath_eq_cons`: the path of the runtime begins with a word.
-/

namespace NativeBridge.Source

inductive Token.IsName : Token → Prop
  | word (text : String) : IsName (.word text)
  | rawWord (text : String) : IsName (.rawWord text)

theorem isName_of_isSegmentName {token : Token} (named : isSegmentName token = true) :
    token.IsName := by
  cases token with
  | word text => exact .word text
  | rawWord text => exact .rawWord text
  | _ => cases named

theorem readNames_eq_cons {places tokens path rest : List Token}
    (words : ∀ token ∈ places, token.IsName) (read : readNames places tokens = some (path, rest)) :
    ∃ name more, path = name :: more ∧ name.IsName := by
  have isName {name : Token} (valid : (isSegmentName name || name ∈ places) = true) :
      name.IsName := by
    rcases Bool.or_eq_true_iff.mp valid with named | listed
    · exact isName_of_isSegmentName named
    · exact words name (of_decide_eq_true listed)
  rw [readNames.eq_def] at read
  split at read
  · split at read
    · obtain ⟨⟨names, after⟩, -, made⟩ := Option.map_eq_some_iff.mp read
      cases made
      exact ⟨_, _, rfl, isName ‹_›⟩
    · cases read
  · split at read
    · cases read
      exact ⟨_, _, rfl, isName ‹_›⟩
    · cases read
  · cases read

theorem exists_readNames {options : Options} {runtime : List Token}
    (path : runtimePath options = .ok runtime) :
    ∃ tokens, readNames (.word "try" :: moduleWords) tokens = some (runtime, []) := by
  obtain ⟨⟨⟩, -, path⟩ := bind_eq_ok.mp path
  cases found : pathOfText? options.runtimeCrate with
  | none =>
      rw [found] at path
      cases path
  | some tokens =>
      rw [found] at path
      obtain rfl := pure_eq_ok.mp path
      obtain ⟨scanned, -, read⟩ := Option.bind_eq_some_iff.mp found
      split at read
      · rename_i whole
        cases read
        exact ⟨_, whole⟩
      · cases read

theorem runtimePath_eq_cons {options : Options} {runtime : List Token}
    (path : runtimePath options = .ok runtime) :
    ∃ name more, runtime = name :: more ∧ name.IsName := by
  obtain ⟨tokens, read⟩ := exists_readNames path
  refine readNames_eq_cons ?_ read
  simp only [moduleWords, List.forall_mem_cons, List.not_mem_nil, false_implies, implies_true,
    and_true]
  exact ⟨.word _, .word _, .word _, .word _⟩

theorem runtimePath_ne_nil {options : Options} {runtime : List Token}
    (path : runtimePath options = .ok runtime) : runtime ≠ [] := by
  obtain ⟨name, more, rfl, -⟩ := runtimePath_eq_cons path
  exact List.cons_ne_nil _ _

end NativeBridge.Source
