import Mathlib.Data.List.DropRight
import TaggedMarkup.Proofs.Element.TextRun

/-!
# Trimmed lines

What is left of the lines of a text when it is no longer broken over lines.
A line next to a line end loses the spaces there, so that nothing is left of it
exactly if it holds nothing but spaces and tabs.
-/

namespace TaggedMarkup

/-! ## The ends of a text -/

theorem stripEnd_cons (p : Char → Bool) (c : Char) (text : Text) :
    stripEnd p (c :: text) =
      if stripEnd p text = [] then (if p c = true then [] else [c]) else c :: stripEnd p text := by
  have hempty : (text.reverse.dropWhile p).isEmpty = true ↔ stripEnd p text = [] := by
    rw [List.isEmpty_iff, stripEnd, List.reverse_eq_nil_iff]
  rw [stripEnd, List.reverse_cons, List.dropWhile_append]
  simp only [hempty]
  split
  · by_cases hc : p c = true
    · simp [hc]
    · simp [hc]
  · simp [stripEnd]

/-- Spaces are taken off the two ends in either order. -/
theorem stripEnd_dropWhile (p : Char → Bool) (text : Text) :
    stripEnd p (text.dropWhile p) = (stripEnd p text).dropWhile p := by
  induction text with
  | nil => rfl
  | cons c text ih =>
      rw [stripEnd_cons]
      by_cases hc : p c = true
      · rw [List.dropWhile_cons_of_pos hc, ih, if_pos hc]
        split
        · rename_i hnil
          rw [hnil]
        · rw [List.dropWhile_cons_of_pos hc]
      · rw [List.dropWhile_cons_of_neg hc, if_neg hc, stripEnd_cons, if_neg hc]
        split
        · rw [List.dropWhile_cons_of_neg hc]
        · rw [List.dropWhile_cons_of_neg hc]

theorem stripEnd_dropWhile_eq_nil_iff {p : Char → Bool} {text : Text} :
    stripEnd p (text.dropWhile p) = [] ↔ ∀ c ∈ text, p c = true := by
  have hagain : stripEnd p (stripEnd p text) = stripEnd p text := List.rdropWhile_idempotent p text
  rw [stripEnd_dropWhile, List.dropWhile_eq_nil_iff, ← stripEnd_eq_nil_iff, hagain,
    stripEnd_eq_nil_iff]

/-! ## Broken text -/

/-- The lines of a text that has more than one, without the spaces at the line ends. -/
def trimmedLines : List Text → List Text
  | [] => []
  | first :: lines => stripEnd isSpace (tabsToSpaces first) :: trimLines (lines.map tabsToSpaces)

theorem trimLines_cons (line : Text) {lines : List Text} (h : lines ≠ []) :
    trimLines (line :: lines) = stripEnd isSpace (line.dropWhile isSpace) :: trimLines lines := by
  cases lines with
  | nil => exact absurd rfl h
  | cons next lines => rfl

theorem joinWith_cons (separator piece : Text) {pieces : List Text} (h : pieces ≠ []) :
    joinWith separator (piece :: pieces) = piece ++ separator ++ joinWith separator pieces := by
  cases pieces with
  | nil => exact absurd rfl h
  | cons next pieces => rfl

theorem two_le_length_splitLines {raw : Text} (h : breaksLine raw = true) :
    2 ≤ (splitLines raw).length := by
  by_contra hshort
  obtain ⟨line, hline⟩ : ∃ line, splitLines raw = [line] := by
    have hsome := List.length_pos_iff.mpr (splitLines_ne_nil raw)
    exact List.length_eq_one_iff.mp (by omega)
  rw [eq_of_splitLines_eq_singleton hline] at hline
  obtain ⟨c, hmem, hbreak⟩ := List.any_eq_true.mp h
  have hplain : isLineBreak c = false :=
    not_isLineBreak_of_mem_splitLines (hline ▸ List.mem_singleton_self raw) c hmem
  rw [hplain] at hbreak
  cases hbreak

theorem collapse_of_breaksLine {raw : Text} (h : breaksLine raw = true) :
    collapse raw = joinWith [' '] ((trimmedLines (splitLines raw)).filter (!·.isEmpty)) := by
  have hlength := two_le_length_splitLines h
  rw [collapse]
  split
  · rename_i first second lines hsplit
    rw [hsplit, trimmedLines]
  · rename_i hshort
    cases hsplit : splitLines raw with
    | nil => simp [hsplit] at hlength
    | cons first lines =>
        cases lines with
        | nil => simp [hsplit] at hlength
        | cons second lines => exact absurd hsplit (hshort first second lines)

end TaggedMarkup
