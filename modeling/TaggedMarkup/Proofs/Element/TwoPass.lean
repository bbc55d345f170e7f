import TaggedMarkup.Proofs.Element.Trimming

/-!
# Collapsing in two passes

Another way to undo the breaking of a text over lines.  A first pass finds the
last line that is not blank; a second one trims the lines and puts a space after
each that is not empty, except after that one.  `collapse` gives the same text,
although it decides where to put spaces from what is left of the lines.
-/

namespace TaggedMarkup

def isBlankLine (line : Text) : Bool :=
  line.all fun c => c == ' ' || c == '\t'

/-- The place of the last line that is not blank. -/
def lastFilled? (lines : List Text) : Option Nat :=
  (lines.zipIdx.filter fun entry => !isBlankLine entry.1).getLast?.map Prod.snd

/-- A line without the spaces next to a line end, from its place among the lines. -/
def trimAt (count index : Nat) (line : Text) : Text :=
  let spaced := line.map fun c => if c = '\t' then ' ' else c
  let begun := if index = 0 then spaced else spaced.dropWhile (· == ' ')
  if index + 1 = count then begun else begun.rdropWhile (· == ' ')

def twoPass (raw : Text) : Text :=
  let lines := (foldLineEnds raw).splitOn '\n'
  let last? := lastFilled? lines
  lines.zipIdx.flatMap fun entry =>
    let trimmed := trimAt lines.length entry.2 entry.1
    if trimmed = [] then [] else if last? = some entry.2 then trimmed else trimmed ++ [' ']

/-! ## Lines -/

theorem pushFirst_eq_modifyHead {lines : List Text} (h : lines ≠ []) (c : Char) :
    pushFirst c lines = lines.modifyHead (c :: ·) := by
  cases lines with
  | nil => exact absurd rfl h
  | cons first lines => rfl

theorem splitOn_lineFeed (rest : Text) :
    ('\n' :: rest).splitOn '\n' = [] :: rest.splitOn '\n' :=
  (List.splitOn_cons_eq_if_modifyHead '\n' rest).trans (if_pos (beq_self_eq_true '\n'))

theorem splitLines_eq_splitOn (raw : Text) : splitLines raw = (foldLineEnds raw).splitOn '\n' := by
  fun_induction splitLines raw with
  | case1 => rfl
  | case2 rest ih => rw [foldLineEnds, splitOn_lineFeed, ih]
  | case3 rest ih =>
      rw [foldLineEnds, splitOn_lineFeed, ih]
      · simp
      · simp
  | case4 rest hrest ih =>
      rw [foldLineEnds, splitOn_lineFeed, ih]
      exact hrest
  | case5 c rest hpair hfeed hreturn ih =>
      rw [foldLineEnds, List.splitOn_cons_eq_if_modifyHead, if_neg (by simpa using hfeed), ih,
        pushFirst_eq_modifyHead (List.splitOn_ne_nil _ _)]
      · exact hpair
      · exact hreturn

/-! ## Trimmed lines -/

theorem trimAt_first {count : Nat} (hcount : 2 ≤ count) (line : Text) :
    trimAt count 0 line = stripEnd isSpace (tabsToSpaces line) :=
  if_neg (by omega)

theorem trimAt_last {index : Nat} (hindex : 0 < index) (line : Text) :
    trimAt (index + 1) index line = (tabsToSpaces line).dropWhile isSpace := by
  rw [trimAt, if_pos rfl, if_neg (by omega)]
  rfl

theorem trimAt_middle {count index : Nat} (hindex : 0 < index) (hcount : index + 1 < count)
    (line : Text) :
    trimAt count index line = stripEnd isSpace ((tabsToSpaces line).dropWhile isSpace) := by
  rw [trimAt, if_neg (by omega), if_neg (by omega)]
  rfl

theorem trimLines_eq_map (lines : List Text) {start : Nat} (hstart : 0 < start) :
    trimLines (lines.map tabsToSpaces) =
      (lines.zipIdx start).map fun entry => trimAt (start + lines.length) entry.2 entry.1 := by
  induction lines generalizing start with
  | nil => rfl
  | cons line lines ih =>
      cases lines with
      | nil => simp [trimLines, trimAt_last hstart]
      | cons next lines =>
          have hcount : start + (line :: next :: lines).length =
              start + 1 + (next :: lines).length := by
            simp only [List.length_cons]
            omega
          have hfirst : trimAt (start + (line :: next :: lines).length) start line =
              stripEnd isSpace ((tabsToSpaces line).dropWhile isSpace) :=
            trimAt_middle hstart (by simp) line
          rw [List.map_cons, trimLines_cons _ (by simp), ih (Nat.succ_pos start), ← hfirst, hcount]
          rfl

theorem trimmedLines_eq_map {lines : List Text} (h : 2 ≤ lines.length) :
    trimmedLines lines = lines.zipIdx.map fun entry => trimAt lines.length entry.2 entry.1 := by
  cases lines with
  | nil => rfl
  | cons first lines =>
      rw [trimmedLines, trimLines_eq_map lines Nat.one_pos, List.zipIdx_cons, List.map_cons,
        trimAt_first h, Nat.add_comm]
      rfl

theorem isSpace_tabsToSpaces_iff (line : Text) :
    (∀ c ∈ tabsToSpaces line, isSpace c = true) ↔ isBlankLine line = true := by
  simp only [tabsToSpaces, List.forall_mem_map, isBlankLine, List.all_eq_true]
  refine forall₂_congr fun c _ => ?_
  by_cases hc : c = '\t'
  · simp [hc, isSpace]
  · simp [hc, isSpace]

theorem trimAt_eq_nil_iff {count index : Nat} (hindex : index < count) (hcount : 2 ≤ count)
    (line : Text) : trimAt count index line = [] ↔ isBlankLine line = true := by
  rw [← isSpace_tabsToSpaces_iff]
  rcases Nat.eq_zero_or_pos index with rfl | hpos
  · rw [trimAt_first hcount, stripEnd_eq_nil_iff]
  · rcases Nat.lt_or_eq_of_le hindex with hmiddle | rfl
    · rw [trimAt_middle hpos hmiddle, stripEnd_dropWhile_eq_nil_iff]
    · rw [trimAt_last hpos, List.dropWhile_eq_nil_iff]

/-! ## Joining -/

section Joining

variable {α : Type} {entries : List α} {place : α → Nat} {trim : α → Text} {filled : α → Bool}

theorem trimmed_eq_nil_iff (hfilled : ∀ entry ∈ entries, filled entry = false ↔ trim entry = []) :
    (entries.map trim).filter (!·.isEmpty) = [] ↔ entries.filter filled = [] := by
  rw [List.filter_eq_nil_iff, List.filter_eq_nil_iff, List.forall_mem_map]
  refine forall₂_congr fun entry hmem => ?_
  rw [Bool.not_eq_true, Bool.not_eq_true, hfilled entry hmem]
  simp

theorem joinWith_eq_flatMap (hplace : (entries.map place).Nodup)
    (hfilled : ∀ entry ∈ entries, filled entry = false ↔ trim entry = []) :
    joinWith [' '] ((entries.map trim).filter (!·.isEmpty)) =
      entries.flatMap fun entry =>
        if trim entry = [] then []
        else if (entries.filter filled).getLast?.map place = some (place entry) then trim entry
        else trim entry ++ [' '] := by
  induction entries with
  | nil => rfl
  | cons entry entries ih =>
      rw [List.map_cons, List.nodup_cons] at hplace
      obtain ⟨hentry, hothers⟩ := List.forall_mem_cons.mp hfilled
      have hrest := ih hplace.2 hothers
      by_cases hempty : trim entry = []
      · rw [List.filter_cons_of_neg (by simp [hentry.mpr hempty]), List.flatMap_cons,
          if_pos hempty, List.map_cons, List.filter_cons_of_neg (by simp [hempty]), hrest]
        rfl
      · have hkept : filled entry = true := by simpa using mt hentry.mp hempty
        rw [List.filter_cons_of_pos hkept, List.flatMap_cons, if_neg hempty, List.map_cons,
          List.filter_cons_of_pos (by simpa using hempty)]
        by_cases hnone : entries.filter filled = []
        · have hall : ∀ other ∈ entries, trim other = [] := by
            intro other hmem
            rw [← hothers other hmem, ← Bool.not_eq_true]
            exact List.filter_eq_nil_iff.mp hnone other hmem
          rw [hnone, (trimmed_eq_nil_iff hothers).mpr hnone,
            List.flatMap_eq_nil_iff.mpr fun other hmem => if_pos (hall other hmem)]
          simp [joinWith]
        · -- the last filled entry comes later, so it has another place
          have hlater : (entries.filter filled).getLast?.map place ≠ some (place entry) := by
            intro hsame
            obtain ⟨last, hlast, hplaced⟩ := Option.map_eq_some_iff.mp hsame
            have hmem : last ∈ entries := List.mem_of_mem_filter (List.mem_of_getLast? hlast)
            exact hplace.1 (hplaced ▸ List.mem_map_of_mem hmem)
          rw [List.getLast?_cons_of_ne_nil hnone, if_neg hlater, ← hrest,
            joinWith_cons _ _ (mt (trimmed_eq_nil_iff hothers).mp hnone)]

end Joining

/-- A text that is broken over lines collapses to what the two passes make of it. -/
theorem collapse_eq_twoPass {raw : Text} (h : breaksLine raw = true) :
    collapse raw = twoPass raw := by
  have hlength := two_le_length_splitLines h
  have hplace : ((splitLines raw).zipIdx.map Prod.snd).Nodup := by
    rw [List.zipIdx_map_snd]
    exact List.nodup_range'
  have hfilled : ∀ entry ∈ (splitLines raw).zipIdx, (!isBlankLine entry.1) = false ↔
      trimAt (splitLines raw).length entry.2 entry.1 = [] := by
    intro entry hmem
    have hlt : entry.2 < (splitLines raw).length := by simpa using List.snd_lt_of_mem_zipIdx hmem
    rw [trimAt_eq_nil_iff hlt hlength, Bool.not_eq_false']
  rw [collapse_of_breaksLine h, trimmedLines_eq_map hlength, joinWith_eq_flatMap hplace hfilled,
    twoPass, ← splitLines_eq_splitOn]
  rfl

/-- A first line with spaces around it, a blank line, and a last line that ends in spaces. -/
def unevenRun : Text :=
  [' ', 'a', ' ', '\r', '\n', '\t', ' ', '\r', '\t', 'b', '\t', 'c', '\n', 'd', ' ', '\t']

theorem unevenRun_twoPass :
    breaksLine unevenRun = true ∧ collapse unevenRun = twoPass unevenRun ∧
      twoPass unevenRun = [' ', 'a', ' ', 'b', ' ', 'c', ' ', 'd', ' ', ' '] :=
  ⟨rfl, collapse_eq_twoPass rfl, by decide⟩

end TaggedMarkup
