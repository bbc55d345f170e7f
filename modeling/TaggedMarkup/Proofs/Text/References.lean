import TaggedMarkup.Proofs.Element.TextRun
import TaggedMarkup.Proofs.Reference.Reading

/-!
# References that are too long

Decoding a text fails only at a decimal reference with too many digits.  There
is no space in a reference, so what is left of a text once it is no longer
broken over lines holds none that the text did not hold.
-/

namespace TaggedMarkup

/-! ## Pieces without a space -/

theorem prefix_of_prefix_append_cons {α : Type} {piece first rest : List α} {c : α}
    (hc : c ∉ piece) (h : piece <+: first ++ c :: rest) : piece <+: first := by
  have hfirst : first ++ [c] <+: first ++ c :: rest := ⟨rest, by simp⟩
  rcases List.prefix_or_prefix_of_prefix h hfirst with h | h
  · rcases List.prefix_concat_iff.mp h with rfl | h
    · simp at hc
    · exact h
  · exact absurd (h.subset (by simp)) hc

/-- A piece without a character stands on one side of it. -/
theorem infix_append_cons {α : Type} {piece first rest : List α} {c : α} (hc : c ∉ piece)
    (h : piece <:+: first ++ c :: rest) : piece <:+: first ∨ piece <:+: rest := by
  induction first with
  | nil =>
      rcases List.infix_cons_iff.mp h with h | h
      · exact .inl (prefix_of_prefix_append_cons hc h).isInfix
      · exact .inr h
  | cons d first ih =>
      rcases List.infix_cons_iff.mp h with h | h
      · have hbegins : piece <+: (d :: first) ++ c :: rest := h
        exact .inl (prefix_of_prefix_append_cons hc hbegins).isInfix
      · exact (ih h).imp_left fun hfirst => hfirst.trans (List.suffix_cons d first).isInfix

theorem infix_joinWith {piece : Text} {pieces : List Text} (hsome : piece ≠ [])
    (hspace : ' ' ∉ piece) (h : piece <:+: joinWith [' '] pieces) :
    ∃ whole ∈ pieces, piece <:+: whole := by
  fun_induction joinWith [' '] pieces with
  | case1 => exact absurd (List.infix_nil.mp h) hsome
  | case2 whole => exact ⟨whole, List.mem_cons_self, h⟩
  | case3 whole pieces _ ih =>
      rw [List.append_assoc] at h
      rcases infix_append_cons hspace h with h | h
      · exact ⟨whole, List.mem_cons_self, h⟩
      · obtain ⟨other, hother, hwithin⟩ := ih h
        exact ⟨other, List.mem_cons_of_mem whole hother, hwithin⟩

theorem infix_tabsToSpaces {piece line : Text} (hspace : ' ' ∉ piece)
    (h : piece <:+: tabsToSpaces line) : piece <:+: line := by
  obtain ⟨before, after, h⟩ := h
  obtain ⟨front, back, rfl, hfront, -⟩ := List.map_eq_append_iff.mp h.symm
  obtain ⟨start, middle, rfl, -, hmiddle⟩ := List.map_eq_append_iff.mp hfront
  -- a tab would have left a space
  have hplain : ∀ c ∈ middle, (if c = '\t' then ' ' else c) = c := by
    intro c hmem
    split
    case isTrue htab =>
      have hleft : ' ' ∈ piece := by
        rw [← hmiddle]
        exact List.mem_map.mpr ⟨c, hmem, if_pos htab⟩
      exact absurd hleft hspace
    case isFalse => rfl
  have hsame : piece = middle := by
    rw [← hmiddle, List.map_congr_left hplain, List.map_id']
  exact ⟨start, back, by rw [hsame]⟩

theorem prefix_of_splitLines {text first : Text} {lines : List Text}
    (h : splitLines text = first :: lines) : first <+: text := by
  fun_induction splitLines text generalizing first lines with
  | case1 => simp_all
  | case2 rest => simp_all
  | case3 rest => simp_all
  | case4 rest => simp_all
  | case5 c rest _ _ _ ih =>
      cases hrest : splitLines rest with
      | nil => exact absurd hrest (splitLines_ne_nil rest)
      | cons line others =>
          rw [hrest, pushFirst, List.cons.injEq] at h
          rw [← h.1, List.cons_prefix_cons]
          exact ⟨rfl, ih hrest⟩

theorem infix_of_mem_splitLines {text line : Text} (h : line ∈ splitLines text) :
    line <:+: text := by
  fun_induction splitLines text with
  | case1 => simp_all
  | case2 rest ih =>
      rcases List.mem_cons.mp h with rfl | h
      · exact List.nil_infix
      · exact (ih h).trans (List.suffix_append ['\r', '\n'] rest).isInfix
  | case3 rest ih =>
      rcases List.mem_cons.mp h with rfl | h
      · exact List.nil_infix
      · exact (ih h).trans (List.suffix_cons '\n' rest).isInfix
  | case4 rest _ ih =>
      rcases List.mem_cons.mp h with rfl | h
      · exact List.nil_infix
      · exact (ih h).trans (List.suffix_cons '\r' rest).isInfix
  | case5 c rest _ _ _ ih =>
      cases hrest : splitLines rest with
      | nil => exact absurd hrest (splitLines_ne_nil rest)
      | cons first others =>
          rw [hrest] at h ih
          rcases List.mem_cons.mp h with rfl | h
          · exact (List.cons_prefix_cons.mpr ⟨rfl, prefix_of_splitLines hrest⟩).isInfix
          · exact (ih (List.mem_cons_of_mem first h)).trans (List.suffix_cons c rest).isInfix

/-- Undoing the breaking of a text over lines puts nothing together that has no space in it. -/
theorem infix_of_infix_collapse {piece raw : Text} (hsome : piece ≠ []) (hspace : ' ' ∉ piece)
    (h : piece <:+: collapse raw) : piece <:+: raw := by
  rcases collapse_eq raw with ⟨-, hkept⟩ | ⟨pieces, hjoin, hpieces⟩
  · rwa [hkept] at h
  · rw [hjoin] at h
    obtain ⟨whole, hwhole, hwithin⟩ := infix_joinWith hsome hspace h
    obtain ⟨line, hline, hpiece⟩ := hpieces whole hwhole
    exact (infix_tabsToSpaces hspace (hwithin.trans hpiece)).trans (infix_of_mem_splitLines hline)

/-! ## Long references -/

namespace Reference

/-- The text holds a decimal reference with more digits than can be read. -/
def HoldsLong (text : Text) : Prop :=
  ∃ digits, (∀ d ∈ digits, isDecimal d = true) ∧ digitLimit < digits.length ∧
    (Reference.decimal digits).written <:+: text

theorem HoldsLong.mono {text whole : Text} (h : HoldsLong text) (hwithin : text <:+: whole) :
    HoldsLong whole := by
  obtain ⟨digits, hdigits, hlong, hwritten⟩ := h
  exact ⟨digits, hdigits, hlong, hwritten.trans hwithin⟩

theorem holdsLong_of_collapse {raw : Text} (h : HoldsLong (collapse raw)) : HoldsLong raw := by
  obtain ⟨digits, hdigits, hlong, hwritten⟩ := h
  refine ⟨digits, hdigits, hlong, infix_of_infix_collapse (by simp [written]) ?_ hwritten⟩
  have hspace : ' ' ∉ digits := by
    intro hmem
    exact absurd (hdigits ' ' hmem) (by decide)
  simp [written, hspace]

theorem long_of_value?_error {reference : Reference} {error : TooManyDigits}
    (h : reference.value? = .error error) :
    ∃ digits, reference = .decimal digits ∧ digitLimit < digits.length := by
  cases reference with
  | decimal digits =>
      refine ⟨digits, rfl, ?_⟩
      by_contra hshort
      simp [value?, hshort] at h
  | named name => simp [value?] at h
  | hexadecimal mark digits => simp [value?] at h

theorem decode_cons_error {c : Char} {rest : Text} {error : TooManyDigits}
    (h : c = '&' → read? rest = none) (herror : decode (c :: rest) = .error error) :
    decode rest = .error error := by
  rw [decode_of_none h] at herror
  cases hrest : decode rest with
  | error other =>
      rw [hrest] at herror
      cases herror
      rfl
  | ok decoded =>
      rw [hrest] at herror
      cases herror

/-- Only a reference that is too long cannot be decoded. -/
theorem holdsLong_of_decode_error {text : Text} {error : TooManyDigits}
    (h : decode text = .error error) : HoldsLong text := by
  induction text using decode.induct with
  | case1 =>
      rw [decode] at h
      cases h
  | case2 rest reference after hread ih =>
      rw [decode_of_reference hread] at h
      rw [eq_written_of_read? hread]
      cases hvalue : reference.value? with
      | error other =>
          obtain ⟨digits, rfl, hlong⟩ := long_of_value?_error hvalue
          exact ⟨digits, (isFormed_of_read? hread).2, hlong, (List.prefix_append _ after).isInfix⟩
      | ok value =>
          have hafter : decode after = .error error := by
            cases hdecode : decode after with
            | error other =>
                rw [hvalue, hdecode] at h
                cases h
                rfl
            | ok decoded =>
                rw [hvalue, hdecode] at h
                cases h
          exact (ih hafter).mono (List.suffix_append _ after).isInfix
  | case3 rest hread ih =>
      have hrest := decode_cons_error (fun _ => hread) h
      exact (ih hrest).mono (List.suffix_cons '&' rest).isInfix
  | case4 c rest hplain ih =>
      have hrest := decode_cons_error (fun hc => absurd hc hplain) h
      exact (ih hrest).mono (List.suffix_cons c rest).isInfix

end Reference

end TaggedMarkup
