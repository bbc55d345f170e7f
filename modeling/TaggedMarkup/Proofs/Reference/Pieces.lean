import TaggedMarkup.Proofs.Element.Wrapping
import TaggedMarkup.Proofs.Reference.Decoding

/-!
# The pieces of a text

Two texts have their pieces one after the other if one sees from the end of the
first or the start of the second that no reference stands across them.  None
goes over white space, so the pieces of a text are those of the stretches between
its white space.  A text that is no longer broken over lines has therefore the
same references as before, and white space that is written as a reference is not
taken away.
-/

namespace TaggedMarkup.Reference

namespace Piece

def reference? : Piece → Option Reference
  | .plain _ => none
  | .reference inner => some inner

/-- Not a space, a tab or a line break; one that is written as a reference counts as solid. -/
def isSolid : Piece → Bool
  | .plain c => !isWrap c
  | .reference _ => true

end Piece

/-- The references that stand in a text, from left to right. -/
def references (text : Text) : List Reference :=
  (pieces text).filterMap Piece.reference?

def solidPieces (text : Text) : List Piece :=
  (pieces text).filter Piece.isSolid

/-! ## Taking pieces off a text -/

theorem flatMap_written_pieces (text : Text) : (pieces text).flatMap Piece.written = text := by
  induction text using pieces.induct with
  | case1 => rw [pieces_nil, List.flatMap_nil]
  | case2 rest reference after hread ih =>
      rw [pieces_of_reference hread, List.flatMap_cons, ih, eq_written_of_read? hread,
        Piece.written]
  | case3 rest hread ih =>
      rw [pieces_of_none fun _ => hread, List.flatMap_cons, ih, Piece.written,
        List.singleton_append]
  | case4 c rest hplain ih =>
      rw [pieces_of_none fun hc => absurd hc hplain, List.flatMap_cons, ih, Piece.written,
        List.singleton_append]

theorem pieces_around {reference : Reference} (h : reference.IsFormed) (before after : Text) :
    pieces (before ++ reference.written ++ after) =
      pieces before ++ .reference reference :: pieces after := by
  obtain ⟨inner, hinner, -⟩ := written_eq_enclosed h
  have hread : read? (inner ++ [';'] ++ after) = some (reference, after) :=
    read?_of_isFormed h (by rw [hinner, List.cons_append])
  rw [List.append_assoc, hinner, List.cons_append,
    pieces_append (not_straddles_ampersand before _), pieces_of_reference hread]

/-- The first pieces of a text are the pieces of what they take up. -/
theorem pieces_flatMap_written {text : Text} {first others : List Piece}
    (h : pieces text = first ++ others) : pieces (first.flatMap Piece.written) = first := by
  induction text using pieces.induct generalizing first with
  | case1 =>
      rw [pieces_nil, eq_comm, List.append_eq_nil_iff] at h
      rw [h.1, List.flatMap_nil, pieces_nil]
  | case2 rest reference after hread ih =>
      cases first with
      | nil => exact pieces_nil
      | cons piece first =>
          rw [pieces_of_reference hread, List.cons_append, List.cons.injEq] at h
          obtain ⟨rfl, hafter⟩ := h
          have haround := pieces_around (isFormed_of_read? hread) [] (first.flatMap Piece.written)
          rwa [ih hafter, pieces_nil] at haround
  | case3 rest hread ih =>
      cases first with
      | nil => exact pieces_nil
      | cons piece first =>
          rw [pieces_of_none fun _ => hread, List.cons_append, List.cons.injEq] at h
          obtain ⟨rfl, hrest⟩ := h
          -- a reference that begins here would have been read in the whole text
          have hnone : read? (first.flatMap Piece.written) = none := by
            cases hfound : read? (first.flatMap Piece.written) with
            | none => rfl
            | some found =>
                rw [← flatMap_written_pieces rest, hrest, List.flatMap_append,
                  read?_append hfound] at hread
                cases hread
          rw [List.flatMap_cons, Piece.written, List.singleton_append,
            pieces_of_none fun _ => hnone, ih hrest]
  | case4 c rest hplain ih =>
      cases first with
      | nil => exact pieces_nil
      | cons piece first =>
          rw [pieces_of_none fun hc => absurd hc hplain, List.cons_append, List.cons.injEq] at h
          obtain ⟨rfl, hrest⟩ := h
          rw [List.flatMap_cons, Piece.written, List.singleton_append,
            pieces_of_none fun hc => absurd hc hplain, ih hrest]

/-! ## Texts kept apart -/

/-- What is enough to see that no reference stands across two texts. -/
inductive KeptApart (first second : Text) : Prop
  | unopened (h : '&' ∉ first)
  /-- After the last `&` of the first text there is a character that is inside no reference. -/
  | interrupted {after : Text} {c : Char} (hends : '&' :: after <:+ first) (hlast : '&' ∉ after)
      (hmem : c ∈ after) (hc : isInner c = false)
  /-- The second text is empty, or it does not begin as the rest of a reference would. -/
  | notContinued (h : ∀ c ∈ second.head?, isInner c = false ∧ c ≠ ';')

theorem eq_of_last_ampersand {text first second : Text} (hfirst : '&' :: first <:+ text)
    (hsecond : '&' :: second <:+ text) (hfree : '&' ∉ first) (hfree' : '&' ∉ second) :
    first = second := by
  rcases List.suffix_or_suffix_of_suffix hfirst hsecond with h | h
  · rcases List.suffix_cons_iff.mp h with heq | h
    · exact (List.cons.inj heq).2
    · exact absurd (h.subset List.mem_cons_self) hfree'
  · rcases List.suffix_cons_iff.mp h with heq | h
    · exact (List.cons.inj heq).2.symm
    · exact absurd (h.subset List.mem_cons_self) hfree

theorem KeptApart.not_straddles {first second : Text} (h : KeptApart first second) :
    ¬ Straddles first second := by
  cases h with
  | unopened h =>
      intro hstraddles
      obtain ⟨inner, hends, -⟩ := hstraddles.exists_inner
      exact h (hends.subset List.mem_cons_self)
  | interrupted hends hlast hmem hc =>
      intro hstraddles
      obtain ⟨inner, hopening, hinner, -⟩ := hstraddles.exists_inner
      have hfree : '&' ∉ inner := fun hmem => absurd (hinner '&' hmem) (by decide)
      obtain rfl := eq_of_last_ampersand hopening hends hfree hlast
      rw [hinner _ hmem] at hc
      cases hc
  | notContinued h => exact not_straddles_of_head? h first

theorem exists_error_decode_append_iff {first second : Text} (h : ¬ Straddles first second) :
    (∃ error, decode (first ++ second) = .error error) ↔
      (∃ error, decode first = .error error) ∨ ∃ error, decode second = .error error := by
  rw [decode_append h]
  cases decode first with
  | error error => simp [bind, Except.bind]
  | ok front =>
      cases decode second with
      | error error => simp [bind, Except.bind]
      | ok back => simp [bind, Except.bind, pure, Except.pure]

/-- Texts that are kept apart are decoded one after the other: the pieces of the whole are those of
the two texts, and decoding fails exactly if it fails for one of them. -/
theorem decode_append_of_keptApart {first second : Text} (h : KeptApart first second) :
    decode (first ++ second) = (do
      let front ← decode first
      let back ← decode second
      pure (front ++ back)) ∧
    ((∃ error, decode (first ++ second) = .error error) ↔
      (∃ error, decode first = .error error) ∨ ∃ error, decode second = .error error) ∧
    pieces (first ++ second) = pieces first ++ pieces second ∧
    decode (first ++ second) =
      ((pieces first ++ pieces second).mapM Piece.decoded).map List.flatten := by
  have hapart := h.not_straddles
  have hpieces := pieces_append hapart
  refine ⟨decode_append hapart, exists_error_decode_append_iff hapart, hpieces, ?_⟩
  rw [decode_eq_pieces, hpieces]

/-- A `;` after the last ampersand, then a reference that is not finished before another one. -/
theorem unfinished_references_decode :
    decode (['&', 'a', 'm', 'p', ';', 'l'] ++ ['t', ';']) = .ok ['&', 'l', 't', ';'] ∧
    decode (['&', 'l', 't'] ++ ['&', '#', '6', '5', ';']) = .ok ['&', 'l', 't', 'A'] := by
  have hinterrupted : KeptApart ['&', 'a', 'm', 'p', ';', 'l'] ['t', ';'] :=
    .interrupted (List.suffix_refl _) (by decide) (c := ';') (by decide) rfl
  have hcut : KeptApart ['&', 'l', 't'] ['&', '#', '6', '5', ';'] := by
    refine .notContinued ?_
    rintro c ⟨⟩
    exact ⟨rfl, by decide⟩
  refine ⟨?_, ?_⟩
  · rw [(decode_append_of_keptApart hinterrupted).1]
    decide +kernel
  · rw [(decode_append_of_keptApart hcut).1]
    decide +kernel

-- without the condition a reference is decoded that neither text holds
example : decode (['&', '#', '6'] ++ ['5', ';']) = .ok ['A'] ∧
    decode ['&', '#', '6'] = .ok ['&', '#', '6'] ∧ decode ['5', ';'] = .ok ['5', ';'] :=
  ⟨by decide +kernel, by decide +kernel, by decide +kernel⟩

/-! ## White space -/

theorem not_straddles_white (first second : Text) {c : Char} (hc : isWrap c = true) :
    ¬ Straddles first (c :: second) := by
  refine not_straddles_of_head? ?_ first
  rintro d ⟨⟩
  obtain rfl | rfl | rfl | rfl : c = ' ' ∨ c = '\t' ∨ c = '\n' ∨ c = '\r' := by
    simpa [isWrap, isLineBreak, or_assoc] using hc
  all_goals exact ⟨rfl, by decide⟩

theorem cutsAtWhite_solidPieces : CutsAtWhite solidPieces where
  nil := by rw [solidPieces, pieces_nil, List.filter_nil]
  append_cons first c hc second := by
    have hplain : c ≠ '&' := by
      rintro rfl
      cases hc
    rw [solidPieces, pieces_append (not_straddles_white first second hc),
      pieces_of_none fun heq => absurd heq hplain, List.filter_append,
      List.filter_cons_of_neg (by simp [Piece.isSolid, hc]), solidPieces, solidPieces]

theorem solidPieces_collapse (raw : Text) : solidPieces (collapse raw) = solidPieces raw :=
  cutsAtWhite_solidPieces.collapse_eq raw

theorem references_eq_solidPieces (text : Text) :
    references text = (solidPieces text).filterMap Piece.reference? := by
  rw [references, solidPieces, List.filterMap_filter]
  refine List.filterMap_congr fun piece _ => ?_
  cases piece with
  | plain c => simp [Piece.reference?]
  | reference inner => rfl

/-- A reference stays where it is among the pieces that are not white space. -/
theorem exists_collapse_around {reference : Reference} (h : reference.IsFormed)
    (before after : Text) :
    ∃ front back, collapse (before ++ reference.written ++ after) =
        front ++ reference.written ++ back ∧
      solidPieces front = solidPieces before ∧ solidPieces back = solidPieces after := by
  have hsolid := solidPieces_collapse (before ++ reference.written ++ after)
  generalize collapse (before ++ reference.written ++ after) = collapsed at hsolid ⊢
  have haround : solidPieces (before ++ reference.written ++ after) =
      solidPieces before ++ .reference reference :: solidPieces after := by
    rw [solidPieces, pieces_around h, List.filter_append, List.filter_cons_of_pos rfl]
    rfl
  rw [haround, solidPieces] at hsolid
  obtain ⟨first, others, hpieces, hfirst, hothers⟩ := List.filter_eq_append_iff.mp hsolid
  obtain ⟨white, second, rfl, hwhite, -, hsecond⟩ := List.filter_eq_cons_iff.mp hothers
  rw [← List.append_assoc] at hpieces
  have hcut : collapsed = (first ++ white).flatMap Piece.written ++ reference.written ++
      second.flatMap Piece.written := by
    rw [← flatMap_written_pieces collapsed, hpieces, List.flatMap_append, List.flatMap_cons,
      List.append_assoc _ reference.written]
    rfl
  have hfront : pieces ((first ++ white).flatMap Piece.written) = first ++ white :=
    pieces_flatMap_written hpieces
  have hback : pieces (second.flatMap Piece.written) = second := by
    rw [hcut, pieces_around h, hfront] at hpieces
    exact (List.cons.inj (List.append_cancel_left hpieces)).2
  refine ⟨_, _, hcut, ?_, ?_⟩
  · have hnothing : white.filter Piece.isSolid = [] := List.filter_eq_nil_iff.mpr hwhite
    rw [solidPieces, hfront, List.filter_append, hnothing, List.append_nil, hfirst]
  · rw [solidPieces, hback, hsecond]

theorem mapM_decoded_eq_error_iff {text : List Piece} {error : TooManyDigits} :
    text.mapM Piece.decoded = .error error ↔
      (text.filter Piece.isSolid).mapM Piece.decoded = .error error := by
  induction text with
  | nil => rfl
  | cons piece text ih =>
      cases hpiece : piece.decoded with
      | error other =>
          have hsolid : piece.isSolid = true := by
            cases piece with
            | plain c => cases hpiece
            | reference inner => rfl
          rw [List.filter_cons_of_pos hsolid, List.mapM_cons, List.mapM_cons, hpiece]
          rfl
      | ok decoded =>
          have hskip (rest : List Piece) : (piece :: rest).mapM Piece.decoded = .error error ↔
              rest.mapM Piece.decoded = .error error := by
            rw [List.mapM_cons, hpiece]
            cases rest.mapM Piece.decoded <;> simp [pure, Except.pure, bind, Except.bind]
          rw [hskip, ih, List.filter_cons]
          split
          · exact (hskip _).symm
          · exact Iff.rfl

theorem decode_eq_error_iff {text : Text} {error : TooManyDigits} :
    decode text = .error error ↔ (solidPieces text).mapM Piece.decoded = .error error := by
  rw [solidPieces, ← mapM_decoded_eq_error_iff, decode_eq_pieces]
  cases (pieces text).mapM Piece.decoded <;> simp [Except.map]

/-- Text is decoded piece by piece, and undoing its breaking over lines keeps its references and
all other pieces that are not white space, in their order.  So a reference, to white space too,
stays between what was before it and after it, and what it stands for is part of the text. -/
theorem references_survive_collapse :
    (∀ text, (pieces text).flatMap Piece.written = text ∧
      decode text = ((pieces text).mapM Piece.decoded).map List.flatten) ∧
    (∀ raw, references (collapse raw) = references raw ∧
      solidPieces (collapse raw) = solidPieces raw ∧
      ∀ error, decode (collapse raw) = .error error ↔ decode raw = .error error) ∧
    ∀ (before after : Text) (reference : Reference), reference.IsFormed →
      ∃ front back, collapse (before ++ reference.written ++ after) =
          front ++ reference.written ++ back ∧
        solidPieces front = solidPieces before ∧ solidPieces back = solidPieces after ∧
        ∀ value, reference.Denotes value → ¬ reference.IsLong →
          decode (collapse (before ++ reference.written ++ after)) = (do
            let first ← decode front
            let second ← decode back
            pure (first ++ value ++ second)) := by
  refine ⟨fun text => ⟨flatMap_written_pieces text, decode_eq_pieces text⟩, fun raw => ?_, ?_⟩
  · refine ⟨?_, solidPieces_collapse raw, fun error => ?_⟩
    · rw [references_eq_solidPieces, solidPieces_collapse, ← references_eq_solidPieces]
    · rw [decode_eq_error_iff, solidPieces_collapse, ← decode_eq_error_iff]
  · intro before after reference hformed
    obtain ⟨front, back, hcollapse, hfront, hback⟩ := exists_collapse_around hformed before after
    refine ⟨front, back, hcollapse, hfront, hback, ?_⟩
    intro value hdenotes hshort
    rw [hcollapse, decode_around hformed, hdenotes.value?_eq hshort]
    rfl

/-- A space between line breaks, then a line break in what would be a reference. -/
theorem space_survives_between_breaks :
    references (collapse ['\n', '&', '#', '3', '2', ';', ' ', '\n', '&', 'l', '\n', 't', ';']) =
      [.decimal ['3', '2']] ∧
    ∃ front back, decode (collapse (['\n'] ++ (Reference.decimal ['3', '2']).written ++
        [' ', '\n', '&', 'l', '\n', 't', ';'])) = (do
          let first ← decode front
          let second ← decode back
          pure (first ++ [' '] ++ second)) := by
  have hspace : (Reference.decimal ['3', '2']).Denotes [' '] := .decimal ⟨0, rfl⟩
  have hshort : ¬ (Reference.decimal ['3', '2']).IsLong := by simp [IsLong, digitLimit]
  obtain ⟨-, hreferences, haround⟩ := references_survive_collapse
  refine ⟨?_, ?_⟩
  · rw [(hreferences _).1]
    decide +kernel
  · obtain ⟨front, back, -, -, -, hdecode⟩ := haround ['\n']
      [' ', '\n', '&', 'l', '\n', 't', ';'] _ hspace.isFormed
    exact ⟨front, back, hdecode _ hspace hshort⟩

end TaggedMarkup.Reference
