import TaggedMarkup.Proofs.Element.Trimming

/-!
# Wrapped text

How a text is broken over lines does not matter: white space with a line break
in it, of whatever lines and indentation, collapses as one line feed does.
Collapsing leaves no line break and takes away nothing but white space.
-/

namespace TaggedMarkup

/-- A space, a tab or a line break. -/
def isWrap (c : Char) : Bool :=
  c == ' ' || c == '\t' || isLineBreak c

/-! ## The first line and what comes after it -/

def firstLine (text : Text) : Text :=
  text.takeWhile (!isLineBreak ·)

/-- What is left of the lines of a text that follows a line break. -/
def openPieces (text : Text) : List Text :=
  (trimLines ((splitLines text).map tabsToSpaces)).filter (!·.isEmpty)

/-- What is left of the lines after the first. -/
def laterPieces (text : Text) : List Text :=
  (trimLines ((splitLines text).tail.map tabsToSpaces)).filter (!·.isEmpty)

theorem splitLines_cons_of_isLineBreak {c : Char} (h : isLineBreak c = true) (rest : Text) :
    splitLines (c :: rest) = [] :: splitLines rest ∨
      ∃ after, rest = '\n' :: after ∧ splitLines (c :: rest) = [] :: splitLines after := by
  obtain rfl | rfl : c = '\n' ∨ c = '\r' := by simpa [isLineBreak] using h
  · exact .inl rfl
  · by_cases hpair : ∃ after, rest = '\n' :: after
    · obtain ⟨after, rfl⟩ := hpair
      exact .inr ⟨after, rfl, rfl⟩
    · refine .inl ?_
      rw [splitLines]
      exact fun after heq => hpair ⟨after, heq⟩

theorem splitLines_cons_of_not_isLineBreak {c : Char} (h : isLineBreak c = false) (rest : Text) :
    splitLines (c :: rest) = pushFirst c (splitLines rest) := by
  obtain ⟨hfeed, hreturn⟩ : c ≠ '\n' ∧ c ≠ '\r' := by simpa [isLineBreak] using h
  rw [splitLines]
  · exact fun _ heq _ => hreturn heq
  · exact hfeed
  · exact hreturn

theorem firstLine_cons_of_not_isLineBreak {c : Char} (h : isLineBreak c = false) (rest : Text) :
    firstLine (c :: rest) = c :: firstLine rest :=
  List.takeWhile_cons_of_pos (by simp [h])

theorem firstLine_cons_of_isLineBreak {c : Char} (h : isLineBreak c = true) (rest : Text) :
    firstLine (c :: rest) = [] :=
  List.takeWhile_cons_of_neg (by simp [h])

theorem splitLines_eq_cons (text : Text) :
    splitLines text = firstLine text :: (splitLines text).tail := by
  induction text with
  | nil => rfl
  | cons c rest ih =>
      cases hc : isLineBreak c with
      | true =>
          rw [firstLine_cons_of_isLineBreak hc]
          rcases splitLines_cons_of_isLineBreak hc rest with hlines | ⟨after, -, hlines⟩
          · rw [hlines, List.tail_cons]
          · rw [hlines, List.tail_cons]
      | false =>
          rw [splitLines_cons_of_not_isLineBreak hc, firstLine_cons_of_not_isLineBreak hc, ih]
          rfl

theorem tail_splitLines_ne_nil {text : Text} (h : breaksLine text = true) :
    (splitLines text).tail ≠ [] := by
  have hlength := two_le_length_splitLines h
  rw [splitLines_eq_cons, List.length_cons] at hlength
  exact List.ne_nil_of_length_pos (by omega)

/-! ## Pieces -/

theorem filter_trimLines_nil_cons {lines : List Text} (h : lines ≠ []) :
    (trimLines (([] :: lines).map tabsToSpaces)).filter (!·.isEmpty) =
      (trimLines (lines.map tabsToSpaces)).filter (!·.isEmpty) := by
  rw [List.map_cons, trimLines_cons _ (by simpa using h)]
  rfl

theorem openPieces_cons_of_isLineBreak {c : Char} (h : isLineBreak c = true) (rest : Text) :
    openPieces (c :: rest) = openPieces rest := by
  rcases splitLines_cons_of_isLineBreak h rest with hlines | ⟨after, rfl, hlines⟩
  · rw [openPieces, hlines, filter_trimLines_nil_cons (splitLines_ne_nil rest), openPieces]
  · rw [openPieces, openPieces, hlines]
    rfl

theorem laterPieces_cons_of_isLineBreak {c : Char} (h : isLineBreak c = true) (rest : Text) :
    laterPieces (c :: rest) = openPieces rest := by
  rcases splitLines_cons_of_isLineBreak h rest with hlines | ⟨after, rfl, hlines⟩
  · rw [laterPieces, hlines, List.tail_cons, openPieces]
  · rw [openPieces_cons_of_isLineBreak (by decide), laterPieces, hlines, List.tail_cons, openPieces]

theorem laterPieces_cons_of_not_isLineBreak {c : Char} (h : isLineBreak c = false) (rest : Text) :
    laterPieces (c :: rest) = laterPieces rest := by
  rw [laterPieces, splitLines_cons_of_not_isLineBreak h, splitLines_eq_cons rest]
  rfl

theorem openPieces_cons_of_isSpace {c : Char} (h : c = ' ' ∨ c = '\t') (rest : Text) :
    openPieces (c :: rest) = openPieces rest := by
  have hplain : isLineBreak c = false := by
    rcases h with rfl | rfl <;> rfl
  have hspace (line : Text) : (tabsToSpaces (c :: line)).dropWhile isSpace =
      (tabsToSpaces line).dropWhile isSpace := by
    rcases h with rfl | rfl <;> rfl
  rw [openPieces, openPieces, splitLines_cons_of_not_isLineBreak hplain, splitLines_eq_cons rest,
    pushFirst]
  cases (splitLines rest).tail with
  | nil => simp only [List.map_cons, List.map_nil, trimLines, hspace]
  | cons next lines => simp only [List.map_cons, trimLines, hspace]

theorem openPieces_of_breaksLine {text : Text} (h : breaksLine text = true) :
    openPieces text =
      [(stripEnd isSpace (tabsToSpaces (firstLine text))).dropWhile isSpace].filter (!·.isEmpty) ++
        laterPieces text := by
  have htail : (splitLines text).tail.map tabsToSpaces ≠ [] :=
    mt List.map_eq_nil_iff.mp (tail_splitLines_ne_nil h)
  rw [openPieces, splitLines_eq_cons, List.map_cons, trimLines_cons _ htail, stripEnd_dropWhile]
  exact List.filter_append [_] _

theorem collapse_eq_pieces {text : Text} (h : breaksLine text = true) :
    collapse text = joinWith [' ']
      ([stripEnd isSpace (tabsToSpaces (firstLine text))].filter (!·.isEmpty) ++
        laterPieces text) := by
  rw [collapse_of_breaksLine h, splitLines_eq_cons, trimmedLines]
  exact congrArg (joinWith [' ']) (List.filter_append [_] _)

/-! ## White space with a line break -/

/-- The texts go on to another line and collapse alike, whatever is put before them. -/
structure WrapAlike (first second : Text) : Prop where
  first_breaks : breaksLine first = true
  second_breaks : breaksLine second = true
  firstLine_eq : stripEnd isSpace (tabsToSpaces (firstLine first)) =
    stripEnd isSpace (tabsToSpaces (firstLine second))
  laterPieces_eq : laterPieces first = laterPieces second

theorem WrapAlike.collapse_eq {first second : Text} (h : WrapAlike first second) :
    collapse first = collapse second := by
  rw [collapse_eq_pieces h.first_breaks, collapse_eq_pieces h.second_breaks, h.firstLine_eq,
    h.laterPieces_eq]

theorem WrapAlike.cons {first second : Text} (h : WrapAlike first second) (c : Char) :
    WrapAlike (c :: first) (c :: second) := by
  have hbreaks {text : Text} (htext : breaksLine text = true) : breaksLine (c :: text) = true := by
    rw [breaksLine, List.any_cons, ← breaksLine, htext, Bool.or_true]
  refine ⟨hbreaks h.first_breaks, hbreaks h.second_breaks, ?_, ?_⟩
  · cases hc : isLineBreak c with
    | true => rw [firstLine_cons_of_isLineBreak hc, firstLine_cons_of_isLineBreak hc]
    | false =>
        rw [firstLine_cons_of_not_isLineBreak hc, firstLine_cons_of_not_isLineBreak hc,
          tabsToSpaces, tabsToSpaces, List.map_cons, List.map_cons, stripEnd_cons, stripEnd_cons,
          ← tabsToSpaces, ← tabsToSpaces, h.firstLine_eq]
  · cases hc : isLineBreak c with
    | true =>
        -- the first lines now come later, and lose the spaces they begin with as well
        rw [laterPieces_cons_of_isLineBreak hc, laterPieces_cons_of_isLineBreak hc,
          openPieces_of_breaksLine h.first_breaks, openPieces_of_breaksLine h.second_breaks,
          h.firstLine_eq, h.laterPieces_eq]
    | false =>
        rw [laterPieces_cons_of_not_isLineBreak hc, laterPieces_cons_of_not_isLineBreak hc,
          h.laterPieces_eq]

theorem WrapAlike.append_left {first second : Text} (h : WrapAlike first second) (before : Text) :
    WrapAlike (before ++ first) (before ++ second) := by
  induction before with
  | nil => exact h
  | cons c before ih => exact ih.cons c

theorem openPieces_append {white : Text} (h : ∀ c ∈ white, isWrap c = true) (rest : Text) :
    openPieces (white ++ rest) = openPieces rest := by
  induction white with
  | nil => rfl
  | cons c white ih =>
      obtain ⟨hc, hwhite⟩ := List.forall_mem_cons.mp h
      rw [List.cons_append, ← ih hwhite]
      cases hbreak : isLineBreak c with
      | true => exact openPieces_cons_of_isLineBreak hbreak _
      | false => exact openPieces_cons_of_isSpace (by simpa [isWrap, hbreak] using hc) _

/-- What is before the first line break ends a line, and what is after it begins one. -/
theorem wrapAlike_lineFeed {white : Text} (h : ∀ c ∈ white, isWrap c = true)
    (hbreaks : breaksLine white = true) (rest : Text) :
    WrapAlike (white ++ rest) ('\n' :: rest) := by
  induction white with
  | nil => cases hbreaks
  | cons c white ih =>
      obtain ⟨hc, hwhite⟩ := List.forall_mem_cons.mp h
      have hfirst : breaksLine (c :: white ++ rest) = true := by
        rw [breaksLine, List.any_append, ← breaksLine, hbreaks, Bool.true_or]
      have hfeed : isLineBreak '\n' = true := rfl
      cases hbreak : isLineBreak c with
      | true =>
          refine ⟨hfirst, rfl, ?_, ?_⟩
          · rw [List.cons_append, firstLine_cons_of_isLineBreak hbreak,
              firstLine_cons_of_isLineBreak hfeed]
          · rw [List.cons_append, laterPieces_cons_of_isLineBreak hbreak,
              laterPieces_cons_of_isLineBreak hfeed, openPieces_append hwhite]
      | false =>
          have halike := ih hwhite (by simpa [breaksLine, hbreak] using hbreaks)
          have hspace : isSpace (if c = '\t' then ' ' else c) = true := by
            obtain rfl | rfl : c = ' ' ∨ c = '\t' := by simpa [isWrap, hbreak] using hc
            · rfl
            · rfl
          refine ⟨hfirst, rfl, ?_, ?_⟩
          · have hnothing : stripEnd isSpace (tabsToSpaces (firstLine (white ++ rest))) = [] :=
              halike.firstLine_eq
            rw [List.cons_append, firstLine_cons_of_not_isLineBreak hbreak, tabsToSpaces,
              List.map_cons, stripEnd_cons, ← tabsToSpaces, if_pos hnothing, if_pos hspace]
            rfl
          · rw [List.cons_append, laterPieces_cons_of_not_isLineBreak hbreak, halike.laterPieces_eq]

/-! ## What is kept -/

/-- What is found in a text is found in the pieces between its white space, one after another. -/
structure CutsAtWhite {α : Type} (find : Text → List α) : Prop where
  nil : find [] = []
  append_cons : ∀ (first : Text) {c : Char}, isWrap c = true → ∀ second,
    find (first ++ c :: second) = find first ++ find second

theorem isWrap_of_isSpace {c : Char} (h : isSpace c = true) : isWrap c = true := by
  rw [isWrap, ← isSpace, h, Bool.true_or, Bool.true_or]

theorem isWrap_of_isLineBreak {c : Char} (h : isLineBreak c = true) : isWrap c = true := by
  rw [isWrap, h, Bool.or_true]

namespace CutsAtWhite

variable {α : Type} {find : Text → List α} (h : CutsAtWhite find)

include h

theorem cons {c : Char} (hc : isWrap c = true) (rest : Text) : find (c :: rest) = find rest := by
  rw [← List.nil_append (c :: rest), h.append_cons [] hc, h.nil, List.nil_append]

theorem eq_nil {white : Text} (hwhite : ∀ c ∈ white, isWrap c = true) : find white = [] := by
  induction white with
  | nil => exact h.nil
  | cons c white ih =>
      obtain ⟨hc, hwhite⟩ := List.forall_mem_cons.mp hwhite
      rw [h.cons hc, ih hwhite]

theorem append_white (line : Text) {white : Text} (hwhite : ∀ c ∈ white, isWrap c = true) :
    find (line ++ white) = find line := by
  cases white with
  | nil => rw [List.append_nil]
  | cons c white =>
      obtain ⟨hc, hwhite⟩ := List.forall_mem_cons.mp hwhite
      rw [h.append_cons line hc, h.eq_nil hwhite, List.append_nil]

theorem dropWhile_eq (line : Text) : find (line.dropWhile isSpace) = find line := by
  induction line with
  | nil => rfl
  | cons c line ih =>
      by_cases hc : isSpace c = true
      · rw [List.dropWhile_cons_of_pos hc, h.cons (isWrap_of_isSpace hc), ih]
      · rw [List.dropWhile_cons_of_neg hc]

theorem stripEnd_eq (line : Text) : find (stripEnd isSpace line) = find line := by
  have hspaces : ∀ c ∈ runAtEnd isSpace line, isWrap c = true := by
    intro c hmem
    rw [runAtEnd, List.mem_reverse] at hmem
    exact isWrap_of_isSpace (List.mem_takeWhile_imp hmem)
  calc find (stripEnd isSpace line)
      = find (stripEnd isSpace line ++ runAtEnd isSpace line) := (h.append_white _ hspaces).symm
    _ = find line := by rw [stripEnd_append_runAtEnd]

-- a piece may begin before the line, so what is before it has to stay
theorem append_tabsToSpaces (before line : Text) :
    find (before ++ tabsToSpaces line) = find (before ++ line) := by
  induction line generalizing before with
  | nil => rfl
  | cons c line ih =>
      rw [tabsToSpaces, List.map_cons, ← tabsToSpaces]
      by_cases htab : c = '\t'
      · have hline : find (tabsToSpaces line) = find line := ih []
        rw [if_pos htab, htab, h.append_cons before rfl, h.append_cons before rfl, hline]
      · rw [if_neg htab, List.append_cons before c line, ← ih, List.append_assoc]
        rfl

theorem tabsToSpaces_eq (line : Text) : find (tabsToSpaces line) = find line :=
  h.append_tabsToSpaces [] line

theorem trimLines_eq (lines : List Text) :
    (trimLines (lines.map tabsToSpaces)).flatMap find = lines.flatMap find := by
  induction lines with
  | nil => rfl
  | cons line lines ih =>
      cases lines with
      | nil =>
          rw [List.map_singleton, trimLines, List.flatMap_singleton, List.flatMap_singleton,
            h.dropWhile_eq, h.tabsToSpaces_eq]
      | cons next lines =>
          rw [List.map_cons, trimLines_cons _ (by simp), List.flatMap_cons, ih, h.stripEnd_eq,
            h.dropWhile_eq, h.tabsToSpaces_eq, ← List.flatMap_cons]

theorem trimmedLines_eq (lines : List Text) :
    (trimmedLines lines).flatMap find = lines.flatMap find := by
  cases lines with
  | nil => rfl
  | cons first lines =>
      rw [trimmedLines, List.flatMap_cons, h.stripEnd_eq, h.tabsToSpaces_eq, h.trimLines_eq,
        ← List.flatMap_cons]

theorem append_splitLines (before text : Text) :
    find (before ++ firstLine text) ++ (splitLines text).tail.flatMap find =
      find (before ++ text) := by
  induction hlength : text.length using Nat.strongRecOn generalizing before text with
  | ind length ih =>
      have hlines (rest : Text) (hrest : rest.length < length) :
          (splitLines rest).flatMap find = find rest := by
        rw [splitLines_eq_cons, List.flatMap_cons]
        exact ih rest.length hrest [] rest rfl
      cases text with
      | nil => exact List.append_nil _
      | cons c rest =>
          rw [List.length_cons] at hlength
          cases hc : isLineBreak c with
          | false =>
              rw [splitLines_cons_of_not_isLineBreak hc, firstLine_cons_of_not_isLineBreak hc,
                splitLines_eq_cons rest, pushFirst, List.tail_cons, List.append_cons before c rest,
                ← ih rest.length (by omega) _ rest rfl, List.append_assoc]
              rfl
          | true =>
              have hwhite := isWrap_of_isLineBreak hc
              rw [firstLine_cons_of_isLineBreak hc, List.append_nil, h.append_cons before hwhite]
              rcases splitLines_cons_of_isLineBreak hc rest with hsplit | ⟨after, rfl, hsplit⟩
              · rw [hsplit, List.tail_cons, hlines rest (by omega)]
              · rw [List.length_cons] at hlength
                rw [hsplit, List.tail_cons, hlines after (by omega), h.cons rfl]

theorem splitLines_eq (raw : Text) : (splitLines raw).flatMap find = find raw := by
  rw [splitLines_eq_cons, List.flatMap_cons]
  exact h.append_splitLines [] raw

theorem joinWith_eq (pieces : List Text) :
    find (joinWith [' '] pieces) = pieces.flatMap find := by
  induction pieces with
  | nil => exact h.nil
  | cons piece pieces ih =>
      cases pieces with
      | nil => rw [joinWith, List.flatMap_singleton]
      | cons next pieces =>
          rw [joinWith_cons _ _ (by simp), List.append_assoc, List.singleton_append,
            h.append_cons piece rfl, ih, ← List.flatMap_cons]

theorem filter_eq (pieces : List Text) :
    (pieces.filter (!·.isEmpty)).flatMap find = pieces.flatMap find := by
  induction pieces with
  | nil => rfl
  | cons piece pieces ih =>
      cases piece with
      | nil => rw [List.filter_cons_of_neg (by simp), List.flatMap_cons, h.nil, ih, List.nil_append]
      | cons c piece => rw [List.filter_cons_of_pos rfl, List.flatMap_cons, List.flatMap_cons, ih]

/-- Undoing the breaking over lines changes nothing that white space is not part of. -/
theorem collapse_eq (raw : Text) : find (collapse raw) = find raw := by
  cases hbreaks : breaksLine raw with
  | false => rw [collapse_of_not_breaksLine hbreaks]
  | true =>
      rw [collapse_of_breaksLine hbreaks, h.joinWith_eq, h.filter_eq, h.trimmedLines_eq,
        h.splitLines_eq]

end CutsAtWhite

/-- The characters of a text other than spaces, tabs and line breaks. -/
def solid (text : Text) : Text :=
  text.filter (!isWrap ·)

theorem cutsAtWhite_solid : CutsAtWhite solid where
  nil := rfl
  append_cons first c hc second := by
    rw [solid, List.filter_append, List.filter_cons_of_neg (by simp [hc]), solid, solid]

theorem solid_collapse (raw : Text) : solid (collapse raw) = solid raw :=
  cutsAtWhite_solid.collapse_eq raw

/-- White space with a line break in it collapses as a line feed does.  Collapsing leaves no line
break, keeps all characters that are not white space, and changes nothing when done again. -/
theorem collapse_wrapping :
    (∀ before white after : Text, (∀ c ∈ white, c = ' ' ∨ c = '\t' ∨ c = '\n' ∨ c = '\r') →
      ('\n' ∈ white ∨ '\r' ∈ white) →
      collapse (before ++ white ++ after) = collapse (before ++ '\n' :: after)) ∧
    ∀ raw, '\n' ∉ collapse raw ∧ '\r' ∉ collapse raw ∧
      solid (collapse raw) = solid raw ∧ collapse (collapse raw) = collapse raw := by
  constructor
  · intro before white after hwhite hbreak
    have hwrap : ∀ c ∈ white, isWrap c = true := by
      intro c hmem
      simpa [isWrap, isLineBreak, or_assoc] using hwhite c hmem
    have hbreaks : breaksLine white = true := by
      rw [breaksLine, List.any_eq_true]
      rcases hbreak with hmem | hmem
      · exact ⟨'\n', hmem, rfl⟩
      · exact ⟨'\r', hmem, rfl⟩
    rw [List.append_assoc]
    exact ((wrapAlike_lineFeed hwrap hbreaks after).append_left before).collapse_eq
  · intro raw
    have hplain : ∀ c ∈ collapse raw, ¬ isLineBreak c = true :=
      List.any_eq_false.mp (breaksLine_collapse raw)
    exact ⟨fun hmem => hplain '\n' hmem rfl, fun hmem => hplain '\r' hmem rfl,
      solid_collapse raw, collapse_collapse raw⟩

/-- The white space ends the line end begun before it and leaves blank lines. -/
theorem splitLineEnd_collapses :
    collapse (['a', ' ', '\r'] ++ ['\n', '\t', '\r', ' '] ++ ['b', ' ']) =
      collapse (['a', ' ', '\r'] ++ '\n' :: ['b', ' ']) ∧
    collapse (['a', ' ', '\r'] ++ '\n' :: ['b', ' ']) = ['a', ' ', 'b', ' '] :=
  ⟨collapse_wrapping.1 _ _ _ (by simp) (by simp), by decide⟩

end TaggedMarkup
