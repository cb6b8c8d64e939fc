/-!
# Lines

A text as the lines between its line feeds.
-/

namespace NativeBridge.Text

def lines : List Char → List (List Char)
  | [] => [[]]
  | c :: rest =>
      if c = '\n' then [] :: lines rest
      else match lines rest with
        | current :: later => (c :: current) :: later
        | [] => [[c]]

def firstLine (text : List Char) : List Char := text.takeWhile (· != '\n')

theorem lines_ne_nil (text : List Char) : lines text ≠ [] := by
  cases text with
  | nil => simp [lines]
  | cons c rest =>
      unfold lines
      split
      · simp
      · split <;> simp

theorem lines_eq_singleton {text : List Char} (whole : '\n' ∉ text) : lines text = [text] := by
  induction text with
  | nil => rfl
  | cons c rest ih =>
      have other : c ≠ '\n' := fun same => whole (same ▸ List.mem_cons_self)
      rw [lines, if_neg other, ih fun inside => whole (List.mem_cons_of_mem c inside)]

end NativeBridge.Text
