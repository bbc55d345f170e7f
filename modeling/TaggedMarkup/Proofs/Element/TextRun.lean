import TaggedMarkup.Element.TextRun
import TaggedMarkup.Text.Blank

/-!
# Collapsed text

Undoing the breaking of a text over lines leaves a text on one line, and such a
text is kept as it is.  So a text that has been collapsed does not change when
it is collapsed again.
-/

namespace TaggedMarkup

/-! ## Lines -/

theorem not_isLineBreak_of_mem_splitLines {text line : Text} (h : line ∈ splitLines text) :
    ∀ c ∈ line, isLineBreak c = false := by
  fun_induction splitLines text generalizing line with
  | case1 => simp_all
  | case2 rest ih => exact (List.mem_cons.mp h).elim (fun hline => by simp [hline]) ih
  | case3 rest ih => exact (List.mem_cons.mp h).elim (fun hline => by simp [hline]) ih
  | case4 rest _ ih => exact (List.mem_cons.mp h).elim (fun hline => by simp [hline]) ih
  | case5 d rest hpair hfeed hreturn ih =>
      have hplain : isLineBreak d = false := by simpa [isLineBreak] using ⟨hfeed, hreturn⟩
      cases hrest : splitLines rest with
      | nil => exact absurd hrest (splitLines_ne_nil rest)
      | cons first lines =>
          rw [hrest] at h ih
          rcases List.mem_cons.mp h with rfl | h
          · intro c hmem
            rcases List.mem_cons.mp hmem with rfl | hmem
            · exact hplain
            · exact ih List.mem_cons_self c hmem
          · exact ih (List.mem_cons_of_mem first h)

theorem splitLines_of_not_breaksLine {text : Text} (h : breaksLine text = false) :
    splitLines text = [text] := by
  induction text with
  | nil => rfl
  | cons c rest ih =>
      simp only [breaksLine, List.any_cons, Bool.or_eq_false_iff] at h
      have hbreak : c ≠ '\n' ∧ c ≠ '\r' := by simpa [isLineBreak] using h.1
      rw [splitLines, ih h.2, pushFirst]
      · exact fun _ hreturn _ => hbreak.2 hreturn
      · exact hbreak.1
      · exact hbreak.2

theorem eq_of_splitLines_eq_singleton {text line : Text} (h : splitLines text = [line]) :
    line = text := by
  fun_induction splitLines text generalizing line with
  | case1 => simp_all
  | case2 rest => exact absurd (List.cons.inj h).2 (splitLines_ne_nil rest)
  | case3 rest => exact absurd (List.cons.inj h).2 (splitLines_ne_nil rest)
  | case4 rest => exact absurd (List.cons.inj h).2 (splitLines_ne_nil rest)
  | case5 c rest hpair hfeed hreturn ih =>
      cases hrest : splitLines rest with
      | nil => exact absurd hrest (splitLines_ne_nil rest)
      | cons first lines =>
          rw [hrest, pushFirst, List.cons.injEq] at h
          obtain ⟨rfl, rfl⟩ := h
          rw [ih hrest]

/-! ## Collapsing -/

theorem mem_joinWith {separator : Text} {pieces : List Text} {c : Char}
    (h : c ∈ joinWith separator pieces) : c ∈ separator ∨ ∃ piece ∈ pieces, c ∈ piece := by
  fun_induction joinWith separator pieces with
  | case1 => simp at h
  | case2 piece => exact .inr ⟨piece, List.mem_cons_self, h⟩
  | case3 piece pieces _ ih =>
      rw [List.mem_append, List.mem_append] at h
      rcases h with (h | h) | h
      · exact .inr ⟨piece, List.mem_cons_self, h⟩
      · exact .inl h
      · rcases ih h with h | ⟨other, hother, h⟩
        · exact .inl h
        · exact .inr ⟨other, List.mem_cons_of_mem piece hother, h⟩

theorem stripEnd_begins (p : Char → Bool) (text : Text) : stripEnd p text <+: text :=
  ⟨runAtEnd p text, stripEnd_append_runAtEnd p text⟩

theorem infix_of_mem_trimLines {lines : List Text} {trimmed : Text}
    (h : trimmed ∈ trimLines lines) : ∃ line ∈ lines, trimmed <:+: line := by
  fun_induction trimLines lines with
  | case1 => simp at h
  | case2 last =>
      rw [List.mem_singleton.mp h]
      exact ⟨last, List.mem_cons_self, (List.dropWhile_suffix _).isInfix⟩
  | case3 line lines _ ih =>
      rcases List.mem_cons.mp h with rfl | h
      · exact ⟨line, List.mem_cons_self,
          (stripEnd_begins _ _).isInfix.trans (List.dropWhile_suffix _).isInfix⟩
      · obtain ⟨other, hother, hwithin⟩ := ih h
        exact ⟨other, List.mem_cons_of_mem line hother, hwithin⟩

/-- A text on one line is kept; of any other text pieces of its lines are left, with spaces between
them. -/
theorem collapse_eq (raw : Text) :
    (splitLines raw = [raw] ∧ collapse raw = raw) ∨
      ∃ pieces, collapse raw = joinWith [' '] pieces ∧
        ∀ piece ∈ pieces, ∃ line ∈ splitLines raw, piece <:+: tabsToSpaces line := by
  unfold collapse
  split
  · rename_i first second lines hsplit
    refine .inr ⟨_, rfl, ?_⟩
    intro piece hpiece
    rw [hsplit]
    rcases List.mem_cons.mp (List.mem_filter.mp hpiece).1 with rfl | hpiece
    · exact ⟨first, List.mem_cons_self, (stripEnd_begins _ _).isInfix⟩
    · obtain ⟨trimmed, htrimmed, hwithin⟩ := infix_of_mem_trimLines hpiece
      obtain ⟨line, hline, rfl⟩ := List.mem_map.mp htrimmed
      exact ⟨line, List.mem_cons_of_mem first hline, hwithin⟩
  · rename_i hshort
    cases hsplit : splitLines raw with
    | nil => exact absurd hsplit (splitLines_ne_nil raw)
    | cons first lines =>
        cases lines with
        | nil => exact .inl ⟨by rw [eq_of_splitLines_eq_singleton hsplit], rfl⟩
        | cons second lines => exact absurd hsplit (hshort first second lines)

theorem not_isLineBreak_of_mem_tabsToSpaces {line : Text}
    (h : ∀ c ∈ line, isLineBreak c = false) : ∀ c ∈ tabsToSpaces line, isLineBreak c = false := by
  intro c hmem
  obtain ⟨d, hd, rfl⟩ := List.mem_map.mp hmem
  split
  · decide
  · exact h d hd

theorem breaksLine_collapse (raw : Text) : breaksLine (collapse raw) = false := by
  have hlines : ∀ line ∈ splitLines raw, ∀ c ∈ line, isLineBreak c = false :=
    fun line => not_isLineBreak_of_mem_splitLines
  rw [breaksLine, List.any_eq_false]
  intro c hmem
  rw [Bool.not_eq_true]
  rcases collapse_eq raw with ⟨hsingle, hkept⟩ | ⟨pieces, hjoin, hpieces⟩
  · rw [hkept] at hmem
    exact hlines raw (by simp [hsingle]) c hmem
  · rw [hjoin] at hmem
    rcases mem_joinWith hmem with hspace | ⟨piece, hpiece, hc⟩
    · rw [List.mem_singleton.mp hspace]
      decide
    · obtain ⟨line, hline, hwithin⟩ := hpieces piece hpiece
      exact not_isLineBreak_of_mem_tabsToSpaces (hlines line hline) c (hwithin.subset hc)

theorem collapse_of_not_breaksLine {text : Text} (h : breaksLine text = false) :
    collapse text = text := by
  rw [collapse, splitLines_of_not_breaksLine h]

@[simp] theorem collapse_collapse (raw : Text) : collapse (collapse raw) = collapse raw :=
  collapse_of_not_breaksLine (breaksLine_collapse raw)

end TaggedMarkup
