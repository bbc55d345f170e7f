import Mathlib.Data.List.Basic
import TaggedMarkup.Grammar.Lexeme
import TaggedMarkup.ImportStatement
import TaggedMarkup.Proofs.Template.Literal

/-!
# What an import statement means

A program reads an import statement as names between braces and the literal of
a module, with any white space between them.  Two things are lost on the way
from the names and the module that were asked for: the line feed that may
follow an identifier, which the statement holds and reading takes for white
space, and a module with a line break in it, whose literal cannot be read.
-/

namespace TaggedMarkup.ImportStatement

/-! ## Reading -/

/-- The name that a module exports, the name it has in the program, and the module. -/
structure Imported where
  exported : Text
  localName : Text
  moduleName : Text
  deriving DecidableEq, Repr

/-- Reads a name after white space. -/
def readName? (text : Text) : Option (Text × Text) :=
  let rest := text.dropWhile isGap
  let name := rest.takeWhile Grammar.isNamePart
  if name = [] then none else some (name, rest.dropWhile Grammar.isNamePart)

def readWord? (word text : Text) : Option Text := do
  let (name, rest) ← readName? text
  if name = word then some rest else none

/-- Reads one character after white space. -/
def readMark? (mark : Char) (text : Text) : Option Text :=
  afterStart? [mark] (text.dropWhile isGap)

/-- Reads what is between the braces: a name, perhaps with another name for it. -/
def readBinding? (text : Text) : Option ((Text × Text) × Text) := do
  let (exported, rest) ← readName? text
  match readMark? '\x7d' rest with
  | some after => some ((exported, exported), after)
  | none =>
    let rest ← readWord? ['a', 's'] rest
    let (localName, rest) ← readName? rest
    let after ← readMark? '\x7d' rest
    some ((exported, localName), after)

/-- Reads a text that is an import statement. -/
def readImport? (text : Text) : Option Imported := do
  let rest ← readWord? ['i', 'm', 'p', 'o', 'r', 't'] text
  let rest ← readMark? '\x7b' rest
  let ((exported, localName), rest) ← readBinding? rest
  let rest ← readWord? ['f', 'r', 'o', 'm'] rest
  let (moduleName, rest) ← readLiteral? (rest.dropWhile isGap)
  let rest ← readMark? ';' rest
  if rest = [] then some ⟨exported, localName, moduleName⟩ else none

structure IsName (name : Text) : Prop where
  ne_nil : name ≠ []
  all : ∀ c ∈ name, Grammar.isNamePart c = true

theorem not_isGap_of_isNamePart {c : Char} (h : Grammar.isNamePart c = true) : isGap c = false := by
  simp only [Grammar.isNamePart, Bool.not_eq_true', Bool.or_eq_false_iff] at h
  exact h.1.2

theorem dropWhile_isGap {gap rest : Text} (hgap : ∀ c ∈ gap, isGap c = true)
    (hrest : ∀ c ∈ rest.head?, isGap c = false) : (gap ++ rest).dropWhile isGap = rest := by
  rw [List.dropWhile_append_of_pos hgap]
  cases rest with
  | nil => rfl
  | cons c rest => exact List.dropWhile_cons_of_neg (by simp [hrest c rfl])

theorem readName?_spaced {gap name rest : Text} (hgap : ∀ c ∈ gap, isGap c = true)
    (hname : IsName name) (hrest : ∀ c ∈ rest.head?, Grammar.isNamePart c = false) :
    readName? (gap ++ (name ++ rest)) = some (name, rest) := by
  have hskip : (gap ++ (name ++ rest)).dropWhile isGap = name ++ rest := by
    refine dropWhile_isGap hgap fun c hmem => not_isGap_of_isNamePart (hname.all c ?_)
    rw [List.head?_append_of_ne_nil _ hname.ne_nil] at hmem
    exact List.mem_of_mem_head? hmem
  have htake : (name ++ rest).takeWhile Grammar.isNamePart = name := by
    rw [List.takeWhile_append_of_pos hname.all]
    cases rest with
    | nil => simp
    | cons c rest => simp [hrest c rfl]
  have hdrop : (name ++ rest).dropWhile Grammar.isNamePart = rest := by
    rw [List.dropWhile_append_of_pos hname.all]
    cases rest with
    | nil => rfl
    | cons c rest => exact List.dropWhile_cons_of_neg (by simp [hrest c rfl])
  rw [readName?, hskip, htake, hdrop, if_neg hname.ne_nil]

theorem readMark?_spaced {gap : Text} {mark : Char} (hgap : ∀ c ∈ gap, isGap c = true)
    (hmark : isGap mark = false) (rest : Text) :
    readMark? mark (gap ++ mark :: rest) = some rest := by
  rw [readMark?, dropWhile_isGap hgap (by simpa using hmark)]
  exact afterStart?_append [mark] rest

theorem readMark?_of_ne {gap : Text} {mark c : Char} (hgap : ∀ c ∈ gap, isGap c = true)
    (hc : isGap c = false) (hne : mark ≠ c) (rest : Text) :
    readMark? mark (gap ++ c :: rest) = none := by
  rw [readMark?, dropWhile_isGap hgap (by simpa using hc), afterStart?, if_neg hne]

theorem readWord?_spaced {gap word rest : Text} (hgap : ∀ c ∈ gap, isGap c = true)
    (hword : IsName word) (hrest : ∀ c ∈ rest.head?, Grammar.isNamePart c = false) :
    readWord? word (gap ++ (word ++ rest)) = some rest := by
  rw [readWord?, readName?_spaced hgap hword hrest]
  exact if_pos rfl

/-! ## Identifiers -/

/-- No range of the one list meets a range of the other. -/
def areApart (first second : List (Nat × Nat)) : Bool :=
  first.all fun a => second.all fun b => Nat.blt a.2 b.1 || Nat.blt b.2 a.1

theorem not_covers_of_areApart {first second : List (Nat × Nat)} (h : areApart first second = true)
    {c : Char} (hc : covers first c = true) : covers second c = false := by
  obtain ⟨a, ha, hlow, hhigh⟩ := (covers_iff first c).mp hc
  by_contra hsecond
  rw [Bool.not_eq_false, covers_iff] at hsecond
  obtain ⟨b, hb, hstart, hstop⟩ := hsecond
  have hapart := List.all_eq_true.mp (List.all_eq_true.mp h a ha) b hb
  simp only [Bool.or_eq_true, Nat.blt_eq] at hapart
  omega

/-- The code points of ASCII that no word holds, without the controls and `$`. -/
def markRanges : List (Nat × Nat) :=
  [(0x21, 0x23), (0x25, 0x2F), (0x3A, 0x40), (0x5B, 0x5E), (0x60, 0x60), (0x7B, 0x7E)]

theorem wordRanges_apart : ∀ ranges ∈ [[(0, 0x1F)], markRanges, gapRanges, blankRanges],
    areApart wordRanges ranges = true := by
  decide +kernel

theorem covers_of_isPunctuation {c : Char} (h : Grammar.isPunctuation c = true) :
    covers markRanges c = true := by
  have hmarks :
      ":;\x60\"'@#.,|^&<=>+-*/\\%?!~()[]\x7b\x7d".toList.all (covers markRanges) = true := rfl
  rw [Grammar.isPunctuation, List.contains_iff_mem] at h
  exact List.all_eq_true.mp hmarks c h

theorem not_covers_of_isWord {c : Char} (h : isWord c = true) {ranges : List (Nat × Nat)}
    (hmem : ranges ∈ [[(0, 0x1F)], markRanges, gapRanges, blankRanges]) :
    covers ranges c = false :=
  not_covers_of_areApart (wordRanges_apart ranges hmem) h

theorem isNamePart_of_isWord {c : Char} (h : isWord c = true) : Grammar.isNamePart c = true := by
  have hcontrol : covers [(0, 0x1F)] c = false := not_covers_of_isWord h (by simp)
  have hgap : isGap c = false := not_covers_of_isWord h (by simp)
  have hmark : covers markRanges c = false := not_covers_of_isWord h (by simp)
  have hpunctuation : Grammar.isPunctuation c = false := by
    by_contra hpunctuation
    rw [covers_of_isPunctuation (Bool.not_eq_false _ ▸ hpunctuation)] at hmark
    cases hmark
  have hlow : ¬ c.toNat < 0x20 := by
    simp [covers] at hcontrol
    omega
  simp [Grammar.isNamePart, hlow, hgap, hpunctuation]

/-- A character that an identifier may go on with is no white space, and a name may hold it. -/
theorem namePart_of_continues {c : Char} (h : (isWord c || c == '$') = true) :
    Grammar.isNamePart c = true ∧ isBlank c = false := by
  rcases Bool.or_eq_true _ _ ▸ h with hword | hdollar
  · exact ⟨isNamePart_of_isWord hword, not_covers_of_isWord hword (by simp)⟩
  · rw [beq_iff_eq.mp hdollar]
    exact ⟨rfl, rfl⟩

theorem continues_of_startsIdentifier {c : Char} (h : startsIdentifier c = true) :
    (isWord c || c == '$') = true := by
  simp only [startsIdentifier, Bool.or_eq_true, Bool.and_eq_true, decide_eq_true_eq, Char.le_def,
    UInt32.le_iff_toNat_le, beq_iff_eq] at h
  rw [Bool.or_eq_true, isWord, covers_iff]
  rcases h with ((h | h) | rfl) | rfl
  · exact .inl ⟨(0x61, 0x7A), .tail _ (.tail _ (.tail _ (.head _))), h⟩
  · exact .inl ⟨(0x41, 0x5A), .tail _ (.head _), h⟩
  · exact .inl ⟨(0x5F, 0x5F), .tail _ (.tail _ (.head _)), by decide⟩
  · exact .inr rfl

theorem isName_of_starts {name : Text} (hsome : name ≠ [])
    (h : name.all startsIdentifier = true) : IsName name := by
  refine ⟨hsome, fun c hmem => ?_⟩
  exact (namePart_of_continues (continues_of_startsIdentifier (List.all_eq_true.mp h c hmem))).1

/-- What ends an identifier: nothing, or a line feed. -/
def IsEnding (ending : Text) : Prop :=
  ending = [] ∨ ending = ['\n']

theorem exists_ending_of_continues {text : Text} (h : continuesIdentifier text = true) :
    ∃ bare ending, text = bare ++ ending ∧ (∀ c ∈ bare, (isWord c || c == '$') = true) ∧
      IsEnding ending := by
  fun_induction continuesIdentifier text with
  | case1 => exact ⟨[], [], rfl, by simp, .inl rfl⟩
  | case2 => exact ⟨[], ['\n'], rfl, by simp, .inr rfl⟩
  | case3 c rest _ ih =>
      obtain ⟨hc, hrest⟩ := Bool.and_eq_true _ _ ▸ h
      obtain ⟨bare, ending, rfl, hbare, hending⟩ := ih hrest
      exact ⟨c :: bare, ending, rfl, List.forall_mem_cons.mpr ⟨hc, hbare⟩, hending⟩

theorem exists_ending_of_isIdentifier {name : Text} (h : isIdentifier name = true) :
    ∃ bare ending, name = bare ++ ending ∧ IsName bare ∧ (∀ c ∈ bare, isBlank c = false) ∧
      IsEnding ending := by
  cases name with
  | nil => cases h
  | cons c rest =>
      obtain ⟨hc, hrest⟩ := Bool.and_eq_true _ _ ▸ h
      obtain ⟨bare, ending, rfl, hbare, hending⟩ := exists_ending_of_continues hrest
      have hall : ∀ d ∈ c :: bare, (isWord d || d == '$') = true :=
        List.forall_mem_cons.mpr ⟨continues_of_startsIdentifier hc, hbare⟩
      exact ⟨c :: bare, ending, rfl,
        ⟨List.cons_ne_nil c bare, fun d hmem => (namePart_of_continues (hall d hmem)).1⟩,
        fun d hmem => (namePart_of_continues (hall d hmem)).2, hending⟩

/-- A name as far as it is on one line. -/
def bareName (name : Text) : Text :=
  name.takeWhile (!isLineBreak ·)

theorem not_isLineBreak_of_not_isBlank {c : Char} (h : isBlank c = false) :
    isLineBreak c = false := by
  by_contra hbreak
  rw [isBlank_of_isLineBreak (Bool.not_eq_false _ ▸ hbreak)] at h
  cases h

theorem bareName_append {bare ending : Text} (hbare : ∀ c ∈ bare, isBlank c = false)
    (hending : IsEnding ending) : bareName (bare ++ ending) = bare := by
  have hplain : ∀ c ∈ bare, (!isLineBreak c) = true := fun c hmem => by
    rw [not_isLineBreak_of_not_isBlank (hbare c hmem), Bool.not_false]
  rw [bareName, List.takeWhile_append_of_pos hplain]
  rcases hending with rfl | rfl
  · exact List.append_nil bare
  · exact List.append_nil bare

/-! ## Modules -/

theorem readLiteralRest_moduleChar {c : Char} (h : isLineBreak c = false) (rest : Text) :
    readLiteralRest ((if c = '\\' ∨ c = '"' then ['\\', c] else [c]) ++ rest) =
      (readLiteralRest rest).map (Prod.map (c :: ·) id) := by
  split_ifs with hescape
  · rcases hescape with rfl | rfl
    · exact readLiteralRest_escape rfl rest
    · exact readLiteralRest_escape rfl rest
  · rw [not_or] at hescape
    exact readLiteralRest_plain hescape.2 hescape.1 h rest

theorem readLiteral?_moduleLiteral (moduleName rest : Text) :
    readLiteral? (moduleLiteral moduleName ++ rest) =
      if breaksLine moduleName = true then none else some (moduleName, rest) := by
  rw [moduleLiteral, List.cons_append, List.cons_append, List.append_assoc, readLiteral?,
    List.singleton_append]
  induction moduleName with
  | nil => rfl
  | cons c moduleName ih =>
      rw [List.flatMap_cons, List.append_assoc, breaksLine, List.any_cons, ← breaksLine]
      cases hc : isLineBreak c with
      | true =>
          have hmark : ¬ (c = '\\' ∨ c = '"') := by
            rintro (rfl | rfl) <;> cases hc
          rw [if_neg hmark, List.singleton_append, Bool.true_or, if_pos rfl, readLiteralRest,
            if_pos (.inr hc)]
          · exact fun heq => hmark (.inr heq)
          · exact fun _ _ _ _ _ heq _ => hmark (.inl heq)
          · exact fun _ _ heq _ => hmark (.inl heq)
      | false =>
          rw [readLiteralRest_moduleChar hc, ih, Bool.false_or]
          split
          · rfl
          · rfl

/-! ## Statements -/

theorem isGap_space : isGap ' ' = true :=
  rfl

theorem isGap_lineFeed : isGap '\n' = true :=
  rfl

theorem IsEnding.isGap {ending : Text} (h : IsEnding ending) :
    ∀ c ∈ ending ++ [' '], isGap c = true := by
  rcases h with rfl | rfl
  · simp [isGap_space]
  · simp [isGap_space, isGap_lineFeed]

theorem not_isNamePart_of_isGap {c : Char} (h : isGap c = true) : Grammar.isNamePart c = false := by
  rw [Grammar.isNamePart, h, Bool.or_true, Bool.true_or, Bool.not_true]

theorem IsEnding.not_isNamePart {ending : Text} (h : IsEnding ending) (rest : Text) :
    ∀ c ∈ (ending ++ [' '] ++ rest).head?, Grammar.isNamePart c = false := by
  intro c hmem
  rw [List.head?_append_of_ne_nil _ (by simp)] at hmem
  exact not_isNamePart_of_isGap (h.isGap c (List.mem_of_mem_head? hmem))

theorem isGap_of_mem_space : ∀ c ∈ [' '], isGap c = true :=
  IsEnding.isGap (.inl rfl)

theorem not_isNamePart_space (rest : Text) :
    ∀ c ∈ ([' '] ++ rest).head?, Grammar.isNamePart c = false :=
  IsEnding.not_isNamePart (.inl rfl) rest

section Binding

variable {exported exportedEnd tag tagEnd : Text} (htag : IsName tag) (htagEnd : IsEnding tagEnd)

include htag htagEnd

theorem readBinding?_one (rest : Text) :
    readBinding? ([' '] ++ (tag ++ (tagEnd ++ [' '] ++ '\x7d' :: rest))) =
      some ((tag, tag), rest) := by
  rw [readBinding?, readName?_spaced isGap_of_mem_space htag (htagEnd.not_isNamePart _)]
  simp only [Option.bind_eq_bind, Option.bind_some]
  rw [readMark?_spaced htagEnd.isGap rfl]

theorem readBinding?_two (hexported : IsName exported) (hexportedEnd : IsEnding exportedEnd)
    (rest : Text) :
    readBinding? ([' '] ++ (exported ++ (exportedEnd ++ [' '] ++ (['a', 's'] ++
      ([' '] ++ (tag ++ (tagEnd ++ [' '] ++ '\x7d' :: rest))))))) =
        some ((exported, tag), rest) := by
  have hword : IsName ['a', 's'] := isName_of_starts (by simp) rfl
  have hopen : readMark? '\x7d' (exportedEnd ++ [' '] ++ (['a', 's'] ++
      ([' '] ++ (tag ++ (tagEnd ++ [' '] ++ '\x7d' :: rest))))) = none :=
    readMark?_of_ne hexportedEnd.isGap rfl (by decide) _
  rw [readBinding?, readName?_spaced isGap_of_mem_space hexported (hexportedEnd.not_isNamePart _)]
  simp only [Option.bind_eq_bind, Option.bind_some]
  rw [hopen, readWord?_spaced hexportedEnd.isGap hword (not_isNamePart_space _)]
  simp only [Option.bind_some]
  rw [readName?_spaced isGap_of_mem_space htag (htagEnd.not_isNamePart _)]
  simp only [Option.bind_some]
  rw [readMark?_spaced htagEnd.isGap rfl]
  rfl

end Binding

theorem render_eq (statement : ImportStatement) :
    statement.render = ['i', 'm', 'p', 'o', 'r', 't'] ++ ([' '] ++ '\x7b' ::
      ([' '] ++ (statement.binding ++ ([' '] ++ '\x7d' :: ([' '] ++ (['f', 'r', 'o', 'm'] ++
        ([' '] ++ (moduleLiteral statement.moduleName ++ [';'])))))))) := by
  have hopen : "import \x7b ".toList = ['i', 'm', 'p', 'o', 'r', 't'] ++ [' ', '\x7b', ' '] :=
    rfl
  have hclose : " \x7d from ".toList = [' ', '\x7d', ' '] ++ ['f', 'r', 'o', 'm'] ++ [' '] :=
    rfl
  unfold render
  rw [hopen, hclose]
  simp only [List.append_assoc, List.cons_append, List.nil_append]

section Statement

variable {statement : ImportStatement} (htag : isIdentifier statement.tag = true)
  (hexported : isIdentifier statement.exportedName = true)

include htag hexported

theorem readBinding?_binding (rest : Text) :
    readBinding? ([' '] ++ (statement.binding ++ ([' '] ++ '\x7d' :: rest))) =
      some ((bareName statement.exportedName, bareName statement.tag), rest) := by
  obtain ⟨tag, tagEnd, htagEq, hname, hblank, htagEnd⟩ := exists_ending_of_isIdentifier htag
  obtain ⟨exported, exportedEnd, hexportedEq, hexportedName, hexportedBlank, hexportedEnd⟩ :=
    exists_ending_of_isIdentifier hexported
  rw [binding]
  split_ifs with hsame
  · rw [hsame, htagEq, bareName_append hblank htagEnd, ← readBinding?_one hname htagEnd]
    simp only [List.append_assoc]
  · have hword : " as ".toList = [' ', 'a', 's', ' '] := rfl
    rw [hexportedEq, htagEq, bareName_append hblank htagEnd,
      bareName_append hexportedBlank hexportedEnd, hword,
      ← readBinding?_two hname htagEnd hexportedName hexportedEnd]
    simp only [List.append_assoc, List.cons_append, List.nil_append]

/-- Names are read without the line feed after them, and no module with a line break is read. -/
theorem readImport?_render : readImport? statement.render =
    if breaksLine statement.moduleName = true then none
    else some ⟨bareName statement.exportedName, bareName statement.tag, statement.moduleName⟩ := by
  have himport : IsName ['i', 'm', 'p', 'o', 'r', 't'] :=
    isName_of_starts (by simp) rfl
  have hfrom : IsName ['f', 'r', 'o', 'm'] := isName_of_starts (by simp) rfl
  have hstart (rest : Text) : readWord? ['i', 'm', 'p', 'o', 'r', 't']
      (['i', 'm', 'p', 'o', 'r', 't'] ++ ([' '] ++ rest)) = some ([' '] ++ rest) :=
    @readWord?_spaced [] _ _ (by simp) himport (not_isNamePart_space rest)
  rw [render_eq, readImport?, hstart]
  simp only [Option.bind_eq_bind, Option.bind_some]
  rw [readMark?_spaced isGap_of_mem_space rfl]
  simp only [Option.bind_some]
  rw [readBinding?_binding htag hexported]
  simp only [Option.bind_some]
  rw [readWord?_spaced isGap_of_mem_space hfrom (not_isNamePart_space _)]
  simp only [Option.bind_some]
  have hquote : isGap '"' = false := rfl
  have hliteral : ([' '] ++ (moduleLiteral statement.moduleName ++ [';'])).dropWhile isGap =
      moduleLiteral statement.moduleName ++ [';'] :=
    dropWhile_isGap isGap_of_mem_space (by simp [moduleLiteral, hquote])
  rw [hliteral, readLiteral?_moduleLiteral]
  split_ifs
  · rfl
  · simp only [Option.bind_some]
    have hend : readMark? ';' [';'] = some [] := rfl
    rw [hend]
    rfl

end Statement

/-! ## Meaning -/

theorem print?_eq_ok_iff {statement : ImportStatement} {text : Text} :
    statement.print? = .ok text ↔ isIdentifier statement.tag = true ∧
      isIdentifier statement.exportedName = true ∧ text = statement.render := by
  rw [print?]
  cases isIdentifier statement.tag with
  | false => simp
  | true =>
      cases isIdentifier statement.exportedName with
      | false => simp
      | true => simpa using eq_comm

theorem not_isBlank_iff {name : Text} (h : isIdentifier name = true) :
    (∀ c ∈ name, isBlank c = false) ↔ name.getLast? ≠ some '\n' := by
  constructor
  · intro hblank hlast
    have hfeed := hblank '\n' (List.mem_of_getLast? hlast)
    cases hfeed
  · intro hlast
    obtain ⟨bare, ending, rfl, -, hbare, hending⟩ := exists_ending_of_isIdentifier h
    rcases hending with rfl | rfl
    · rwa [List.append_nil]
    · exact absurd List.getLast?_concat hlast

theorem breaksLine_moduleLiteral (moduleName : Text) :
    breaksLine (moduleLiteral moduleName) = breaksLine moduleName := by
  have hchar (c : Char) :
      (if c = '\\' ∨ c = '"' then ['\\', c] else [c]).any isLineBreak = isLineBreak c := by
    split_ifs
    · simp [isLineBreak]
    · simp
  have hquote : breaksLine ['"'] = false := rfl
  rw [moduleLiteral, List.cons_append, ← List.singleton_append, breaksLine_append,
    breaksLine_append, hquote, Bool.false_or, Bool.or_false, breaksLine, List.any_flatMap,
    breaksLine]
  simp only [hchar]

theorem breaksLine_binding (statement : ImportStatement) :
    breaksLine statement.binding =
      (breaksLine statement.exportedName || breaksLine statement.tag) := by
  have hword : breaksLine " as ".toList = false := rfl
  rw [binding]
  split_ifs with hsame
  · rw [hsame, Bool.or_self]
  · rw [breaksLine_append, breaksLine_append, hword, Bool.or_false]

theorem breaksLine_render (statement : ImportStatement) :
    breaksLine statement.render = (breaksLine statement.exportedName ||
      breaksLine statement.tag || breaksLine statement.moduleName) := by
  have hopen : breaksLine "import \x7b ".toList = false := rfl
  have hclose : breaksLine " \x7d from ".toList = false := rfl
  have hend : breaksLine [';'] = false := rfl
  unfold render
  rw [breaksLine_append, breaksLine_append, breaksLine_append, breaksLine_append, hopen, hclose,
    hend, breaksLine_moduleLiteral, breaksLine_binding, Bool.false_or, Bool.or_false,
    Bool.or_false]

theorem breaksLine_eq_false {name : Text} (h : ∀ c ∈ name, isBlank c = false) :
    breaksLine name = false :=
  List.any_eq_false.mpr fun c hmem => by
    rw [not_isLineBreak_of_not_isBlank (h c hmem)]
    exact Bool.false_ne_true

theorem bareName_eq_self {name : Text} (h : ∀ c ∈ name, isBlank c = false) :
    bareName name = name := by
  have hbare := bareName_append h (.inl rfl)
  rwa [List.append_nil] at hbare

/-- A printed statement is one line, holds names without white space and is read as importing what
was asked for, exactly if no name ends in a line feed and there is no line break in the module.  The
names are always read without the line feed, and a module with a line break is not read. -/
theorem printed_import_means_iff {statement : ImportStatement} {text : Text}
    (h : statement.print? = .ok text) :
    ((breaksLine text = false ∧
        (∀ name ∈ [statement.exportedName, statement.tag], ∀ c ∈ name, isBlank c = false) ∧
        readImport? text = some ⟨statement.exportedName, statement.tag, statement.moduleName⟩) ↔
      statement.exportedName.getLast? ≠ some '\n' ∧ statement.tag.getLast? ≠ some '\n' ∧
        breaksLine statement.moduleName = false) ∧
    readImport? text = if breaksLine statement.moduleName = true then none
      else some ⟨bareName statement.exportedName, bareName statement.tag,
        statement.moduleName⟩ := by
  obtain ⟨htag, hexported, rfl⟩ := print?_eq_ok_iff.mp h
  have hread := readImport?_render htag hexported
  refine ⟨?_, hread⟩
  rw [← not_isBlank_iff hexported, ← not_isBlank_iff htag]
  constructor
  · rintro ⟨hline, hnames, -⟩
    rw [breaksLine_render, Bool.or_eq_false_iff] at hline
    exact ⟨hnames _ (by simp), hnames _ (by simp), hline.2⟩
  · rintro ⟨hexportedBlank, htagBlank, hmodule⟩
    refine ⟨?_, by simpa using ⟨hexportedBlank, htagBlank⟩, ?_⟩
    · rw [breaksLine_render, breaksLine_eq_false hexportedBlank, breaksLine_eq_false htagBlank,
        hmodule]
      rfl
    · rw [hread, hmodule, bareName_eq_self hexportedBlank, bareName_eq_self htagBlank]
      rfl

/-- A tag with another name in a module whose name has to be escaped. -/
theorem renamed_import_reads_back :
    (ImportStatement.mk ['$', 'h'] ['"', '\\'] ['h']).print? =
      .ok (ImportStatement.mk ['$', 'h'] ['"', '\\'] ['h']).render ∧
    readImport? (ImportStatement.mk ['$', 'h'] ['"', '\\'] ['h']).render =
      some ⟨['h'], ['$', 'h'], ['"', '\\']⟩ := by
  have hprint : (ImportStatement.mk ['$', 'h'] ['"', '\\'] ['h']).print? =
      .ok (ImportStatement.mk ['$', 'h'] ['"', '\\'] ['h']).render :=
    print?_eq_ok_iff.mpr ⟨rfl, rfl, rfl⟩
  exact ⟨hprint, ((printed_import_means_iff hprint).1.mpr
    ⟨by decide, by decide, by decide⟩).2.2⟩

/-- The line feed after a tag goes into the statement and is lost when it is read; a line feed in a
module goes into its literal, which then cannot be read. -/
theorem lineFeed_changes_import :
    (∃ text, (ImportStatement.mk ['h', '\n'] ['m'] []).print? = .ok text ∧
      breaksLine text = true ∧ readImport? text = some ⟨['h'], ['h'], ['m']⟩) ∧
    ∃ text, (ImportStatement.mk ['h'] ['a', '\n', 'b'] []).print? = .ok text ∧
      breaksLine text = true ∧ readImport? text = none := by
  refine ⟨⟨_, print?_eq_ok_iff.mpr ⟨rfl, rfl, rfl⟩, ?_, ?_⟩,
    ⟨_, print?_eq_ok_iff.mpr ⟨rfl, rfl, rfl⟩, ?_, ?_⟩⟩
  · rw [breaksLine_render]
    rfl
  · exact readImport?_render rfl rfl
  · rw [breaksLine_render]
    rfl
  · exact readImport?_render rfl rfl

end TaggedMarkup.ImportStatement
