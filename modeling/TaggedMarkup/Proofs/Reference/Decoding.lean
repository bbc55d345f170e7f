import Mathlib.Data.List.Forall2
import TaggedMarkup.Proofs.Text.References

/-!
# Decoding references

Decoding goes through a concatenation wherever no reference stands across it,
and there is none across the start of another one.  So a text is decoded
piece by piece, whatever way each piece is written in, and what has been decoded
is not looked at again.
-/

namespace TaggedMarkup.Reference

/-! ## Concatenation -/

/-- A reference begins in the first text and ends in the second. -/
def Straddles (first second : Text) : Prop :=
  ∃ (reference : Reference) (front back : Text), reference.IsFormed ∧
    reference.written = front ++ back ∧ front ≠ [] ∧ back ≠ [] ∧ front <:+ first ∧ back <+: second

theorem Straddles.append_left {first second : Text} (h : Straddles first second) (before : Text) :
    Straddles (before ++ first) second := by
  obtain ⟨reference, front, back, hformed, hwritten, hfront, hback, hends, hbegins⟩ := h
  exact ⟨reference, front, back, hformed, hwritten, hfront, hback,
    hends.trans (List.suffix_append before first), hbegins⟩

theorem not_straddles_after {rest after second : Text} {reference : Reference}
    (hread : read? rest = some (reference, after)) (h : ¬ Straddles ('&' :: rest) second) :
    ¬ Straddles after second := by
  intro hstraddles
  refine h ?_
  rw [eq_written_of_read? hread]
  exact hstraddles.append_left _

theorem read?_append {rest after second : Text} {reference : Reference}
    (h : read? rest = some (reference, after)) :
    read? (rest ++ second) = some (reference, after ++ second) := by
  obtain ⟨hformed, hwritten⟩ := read?_eq_some_iff.mp h
  refine read?_of_isFormed hformed ?_
  rw [← List.append_assoc, ← hwritten, List.cons_append]

theorem read?_append_eq_none {rest second : Text} (h : read? rest = none)
    (hapart : ¬ Straddles ('&' :: rest) second) : read? (rest ++ second) = none := by
  cases hread : read? (rest ++ second) with
  | none => rfl
  | some found =>
      obtain ⟨reference, after⟩ := found
      obtain ⟨hformed, hwritten⟩ := read?_eq_some_iff.mp hread
      rw [← List.cons_append] at hwritten
      -- the reference ends in the second text, with the first one, or before its end
      rcases List.append_eq_append_iff.mp hwritten with
        ⟨back, hfront, hafter⟩ | ⟨back, hfront, -⟩
      · cases back with
        | nil =>
            have hwhole : read? rest = some (reference, []) :=
              read?_of_isFormed hformed (by simpa using hfront.symm)
            rw [hwhole] at h
            cases h
        | cons c back =>
            have hbegins : c :: back <+: second := ⟨after, hafter.symm⟩
            refine absurd ⟨reference, '&' :: rest, c :: back, hformed, hfront, ?_⟩ hapart
            exact ⟨List.cons_ne_nil _ _, List.cons_ne_nil _ _, List.suffix_refl _, hbegins⟩
      · rw [read?_of_isFormed hformed hfront] at h
        cases h

/-- Texts that no reference stands across have their pieces one after the other. -/
theorem pieces_append {first second : Text} (h : ¬ Straddles first second) :
    pieces (first ++ second) = pieces first ++ pieces second := by
  induction first using pieces.induct with
  | case1 => rw [pieces_nil, List.nil_append, List.nil_append]
  | case2 rest reference after hread ih =>
      rw [List.cons_append, pieces_of_reference (read?_append hread),
        ih (not_straddles_after hread h), pieces_of_reference hread, List.cons_append]
  | case3 rest hread ih =>
      rw [List.cons_append, pieces_of_none fun _ => read?_append_eq_none hread h,
        ih fun hstraddles => h (hstraddles.append_left ['&']), pieces_of_none fun _ => hread,
        List.cons_append]
  | case4 c rest hplain ih =>
      have hnone (text : Text) : c = '&' → read? text = none := fun hc => absurd hc hplain
      rw [List.cons_append, pieces_of_none (hnone _),
        ih fun hstraddles => h (hstraddles.append_left [c]), pieces_of_none (hnone _),
        List.cons_append]

theorem decode_append {first second : Text} (h : ¬ Straddles first second) :
    decode (first ++ second) = (do
      let front ← decode first
      let back ← decode second
      pure (front ++ back)) := by
  rw [decode_eq_pieces, pieces_append h, List.mapM_append, decode_eq_pieces first,
    decode_eq_pieces second]
  cases (pieces first).mapM Piece.decoded with
  | error error => rfl
  | ok front =>
      cases (pieces second).mapM Piece.decoded with
      | error error => rfl
      | ok back => exact congrArg Except.ok List.flatten_append

/-! ## References and their surroundings -/

theorem isNameCharacter_of_isHexadecimal {c : Char} (h : isHexadecimal c = true) :
    isNameCharacter c = true := by
  rw [isHexadecimal_iff] at h
  rw [isNameCharacter, Bool.or_eq_true, isLetter_iff, isDecimal_iff]
  omega

/-- The character may stand between the `&` and the `;` of a reference. -/
def isInner (c : Char) : Bool :=
  isNameCharacter c || c == '#'

theorem isInner_of_isNameCharacter {c : Char} (h : isNameCharacter c = true) :
    isInner c = true := by
  rw [isInner, h, Bool.true_or]

theorem written_eq_enclosed {reference : Reference} (h : reference.IsFormed) :
    ∃ inner, reference.written = '&' :: (inner ++ [';']) ∧ ∀ c ∈ inner, isInner c = true := by
  cases reference with
  | named name => exact ⟨name, rfl, fun c hmem => isInner_of_isNameCharacter (h.2 c hmem)⟩
  | decimal digits =>
      refine ⟨'#' :: digits, rfl, ?_⟩
      intro c hmem
      rcases List.mem_cons.mp hmem with rfl | hdigit
      · rfl
      · exact isInner_of_isNameCharacter (by rw [isNameCharacter, h.2 c hdigit, Bool.or_true])
  | hexadecimal mark digits =>
      obtain ⟨hmark, -, hdigits⟩ := h
      refine ⟨'#' :: mark :: digits, rfl, ?_⟩
      intro c hmem
      obtain rfl | rfl | hdigit : c = '#' ∨ c = mark ∨ c ∈ digits := by simpa using hmem
      · rfl
      · rcases hmark with rfl | rfl <;> rfl
      · exact isInner_of_isNameCharacter (isNameCharacter_of_isHexadecimal (hdigits c hdigit))

/-- Where a reference stands across two texts, the first one ends in its `&` and a part of what
is inside it, and the second one goes on with the rest. -/
theorem Straddles.exists_inner {first second : Text} (h : Straddles first second) :
    ∃ inner, '&' :: inner <:+ first ∧ (∀ c ∈ inner, isInner c = true) ∧
      ∃ c, second.head? = some c ∧ (isInner c = true ∨ c = ';') := by
  obtain ⟨reference, front, back, hformed, hwritten, hfront, hback, hends, hbegins⟩ := h
  obtain ⟨inner, hinner, hall⟩ := written_eq_enclosed hformed
  obtain ⟨opening, front, rfl⟩ := List.exists_cons_of_ne_nil hfront
  rw [hinner, List.cons_append, List.cons.injEq] at hwritten
  obtain ⟨rfl, hrest⟩ := hwritten
  -- all of the reference but its `;` is inside it, and the `;` is in the second text
  have hsplit : inner = front ++ back.dropLast := by
    rw [← List.dropLast_append_of_ne_nil hback, ← hrest, List.dropLast_concat]
  refine ⟨front, hends, ?_, ?_⟩
  · intro c hmem
    exact hall c (by rw [hsplit]; exact List.mem_append_left _ hmem)
  · obtain ⟨c, back, rfl⟩ := List.exists_cons_of_ne_nil hback
    obtain ⟨after, rfl⟩ := hbegins
    refine ⟨c, rfl, ?_⟩
    have hmem : c ∈ inner ++ [';'] := by simp [hrest]
    rcases List.mem_append.mp hmem with hmem | hmem
    · exact .inl (hall c hmem)
    · exact .inr (List.mem_singleton.mp hmem)

/-- No reference stands across the start of a text that cannot be the rest of one. -/
theorem not_straddles_of_head? {second : Text}
    (h : ∀ c ∈ second.head?, isInner c = false ∧ c ≠ ';') (first : Text) :
    ¬ Straddles first second := by
  intro hstraddles
  obtain ⟨-, -, -, c, hhead, hinner | hend⟩ := hstraddles.exists_inner
  · rw [(h c hhead).1] at hinner
    cases hinner
  · exact (h c hhead).2 hend

theorem not_straddles_ampersand (first rest : Text) : ¬ Straddles first ('&' :: rest) := by
  refine not_straddles_of_head? ?_ first
  rintro c ⟨⟩
  exact ⟨rfl, by decide⟩

theorem decode_written_append {reference : Reference} (h : reference.IsFormed) (rest : Text) :
    decode (reference.written ++ rest) = (do
      let value ← reference.value?
      let decoded ← decode rest
      pure (value.getD reference.written ++ decoded)) := by
  obtain ⟨inner, hinner, -⟩ := written_eq_enclosed h
  have hread : read? (inner ++ [';'] ++ rest) = some (reference, rest) :=
    read?_of_isFormed h (by rw [hinner, List.cons_append])
  rw [← decode_of_reference hread, hinner, List.cons_append]

/-- What a reference stands for takes its place, whatever is before and after it. -/
theorem decode_around {reference : Reference} (h : reference.IsFormed) (before after : Text) :
    decode (before ++ reference.written ++ after) = (do
      let front ← decode before
      let value ← reference.value?
      let back ← decode after
      pure (front ++ value.getD reference.written ++ back)) := by
  obtain ⟨inner, hinner, -⟩ := written_eq_enclosed h
  have hapart : ¬ Straddles before (reference.written ++ after) := by
    rw [hinner, List.cons_append]
    exact not_straddles_ampersand before _
  rw [List.append_assoc, decode_append hapart, decode_written_append h]
  simp only [bind_assoc, pure_bind, List.append_assoc]

theorem decode_plain_append {text : Text} (h : '&' ∉ text) (rest : Text) :
    decode (text ++ rest) = (decode rest).map (text ++ ·) := by
  induction text with
  | nil =>
      cases hrest : decode rest with
      | error error => simp [hrest, Except.map]
      | ok decoded => simp [hrest, Except.map]
  | cons c text ih =>
      have hc : c ≠ '&' := fun hc => h (hc ▸ List.mem_cons_self)
      have htext : '&' ∉ text := fun hmem => h (List.mem_cons_of_mem c hmem)
      rw [List.cons_append, decode_of_none fun heq => absurd heq hc, ih htext]
      cases decode rest <;> rfl

/-! ## Spellings -/

/-- A piece of text and a way to write it. -/
inductive Spelling : Text → Text → Prop
  | plain {piece : Text} (h : '&' ∉ piece) : Spelling piece piece
  | reference {piece : Text} {reference : Reference} (h : reference.Denotes piece)
      (hshort : ¬ reference.IsLong) : Spelling piece reference.written

theorem Spelling.decode_append {piece spelling : Text} (h : Spelling piece spelling)
    (rest : Text) : decode (spelling ++ rest) = (decode rest).map (piece ++ ·) := by
  cases h with
  | plain h => exact decode_plain_append h rest
  | reference h hshort =>
      rw [decode_written_append h.isFormed, h.value?_eq hshort]
      cases decode rest <;> rfl

theorem decode_spellings {pieces spellings : List Text} (h : List.Forall₂ Spelling pieces spellings)
    (rest : Text) :
    decode (spellings.flatten ++ rest) = (decode rest).map (pieces.flatten ++ ·) := by
  induction h with
  | nil => exact decode_plain_append (List.not_mem_nil) rest
  | cons hpiece hpieces ih =>
      rw [List.flatten_cons, List.append_assoc, hpiece.decode_append, ih]
      cases decode rest with
      | error error => rfl
      | ok decoded => simp [Except.map]

theorem decode_flatten {pieces spellings : List Text}
    (h : List.Forall₂ Spelling pieces spellings) :
    decode spellings.flatten = .ok pieces.flatten := by
  have hwhole := decode_spellings h []
  rwa [List.append_nil, decode, Except.map, List.append_nil] at hwhole

def spellAmpersand (c : Char) : Text :=
  if c = '&' then ['&', 'a', 'm', 'p', ';'] else [c]

theorem spelling_spellAmpersand (c : Char) : Spelling [c] (spellAmpersand c) := by
  by_cases hc : c = '&'
  · have hname : (Reference.named ['a', 'm', 'p']).Denotes ['&'] := .named (by decide)
    rw [spellAmpersand, if_pos hc, hc]
    exact .reference hname id
  · rw [spellAmpersand, if_neg hc]
    exact .plain (by simpa using Ne.symm hc)

/-- However the pieces of a text are written, decoding gives the text back and goes on with what
follows.  What a reference stands for is not decoded again: it is put between what the texts
before and after the reference decode to. -/
theorem decode_undoes_spelling {pieces spellings : List Text}
    (h : List.Forall₂ Spelling pieces spellings) :
    decode spellings.flatten = .ok pieces.flatten ∧
    (∀ rest, decode (spellings.flatten ++ rest) = (decode rest).map (pieces.flatten ++ ·)) ∧
    (∀ text, decode (text.flatMap spellAmpersand) = .ok text) ∧
    ∀ reference value before after, Denotes reference value → ¬ reference.IsLong →
      decode (before ++ reference.written ++ after) = (do
        let front ← decode before
        let back ← decode after
        pure (front ++ value ++ back)) := by
  refine ⟨decode_flatten h, decode_spellings h, ?_, ?_⟩
  · intro text
    have hspelled : List.Forall₂ Spelling (text.map ([·])) (text.map spellAmpersand) := by
      rw [List.forall₂_map_left_iff, List.forall₂_map_right_iff, List.forall₂_same]
      exact fun c _ => spelling_spellAmpersand c
    have htext := decode_flatten hspelled
    rwa [← List.flatMap_def, ← List.flatMap_def, List.flatMap_singleton'] at htext
  · intro reference value before after hdenotes hshort
    rw [decode_around hdenotes.isFormed, hdenotes.value?_eq hshort]
    rfl

/-- An ampersand before what looks like the rest of a reference, numbers in both bases, and a name
for two characters. -/
def mixedPieces : List Text :=
  [['&'], ['l', 't', ';'], ['A'], ['J'], [Char.ofNat 0x2242, Char.ofNat 0x338]]

def mixedSpellings : List Text :=
  [['&', 'a', 'm', 'p', ';'], ['l', 't', ';'], ['&', '#', '0', '0', '6', '5', ';'],
    ['&', '#', 'X', '4', 'a', ';'], ['&', 'n', 'e', 's', 'i', 'm', ';']]

theorem mixedSpellings_decode :
    List.Forall₂ Spelling mixedPieces mixedSpellings ∧
      decode mixedSpellings.flatten = .ok mixedPieces.flatten := by
  have hname : (Reference.named ['n', 'e', 's', 'i', 'm']).Denotes
      [Char.ofNat 0x2242, Char.ofNat 0x338] := .named (by decide)
  have hdecimal : (Reference.decimal ['0', '0', '6', '5']).Denotes ['A'] := .decimal ⟨2, rfl⟩
  have hhexadecimal : (Reference.hexadecimal 'X' ['4', 'a']).Denotes ['J'] :=
    .hexadecimal (.inr rfl) ⟨0, rfl⟩
  have h : List.Forall₂ Spelling mixedPieces mixedSpellings :=
    .cons (spelling_spellAmpersand '&') <| .cons (.plain (by decide)) <|
      .cons (.reference hdecimal (by simp [IsLong, digitLimit])) <|
      .cons (.reference hhexadecimal id) <| .cons (.reference hname id) .nil
  exact ⟨h, (decode_undoes_spelling h).1⟩

end TaggedMarkup.Reference
