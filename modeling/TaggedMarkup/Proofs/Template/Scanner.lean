import TaggedMarkup.Text.Basic

/-!
# Scanning templates

How a program text is cut into the quasis and holes of a template.  Between
backticks a backslash takes the next character with it, and a dollar sign
before a brace opens a hole.  In a hole braces are counted, string literals are
skipped, and a backtick begins a template inside it; the brace that closes the
hole is the one at depth zero.  Each step takes at least one character, so the
length of the text bounds the nesting, and `scanTemplate` needs no other bound.
-/

namespace TaggedMarkup

mutual

/-- A template as it was scanned: its raw quasis, and its holes. -/
structure ScannedTemplate where
  quasis : List Text
  holes : List ScannedHole

/-- The text of a hole, and the templates that begin in it, in their order. -/
structure ScannedHole where
  text : Text
  templates : List ScannedTemplate

end

namespace ScannedTemplate

def pushText (text : Text) : ScannedTemplate → ScannedTemplate
  | ⟨[], holes⟩ => ⟨[text], holes⟩
  | ⟨quasi :: quasis, holes⟩ => ⟨(text ++ quasi) :: quasis, holes⟩

def pushHole (hole : ScannedHole) (template : ScannedTemplate) : ScannedTemplate :=
  ⟨[] :: template.quasis, hole :: template.holes⟩

end ScannedTemplate

def ScannedHole.push (text : Text) (templates : List ScannedTemplate) (hole : ScannedHole) :
    ScannedHole :=
  ⟨text ++ hole.text, templates ++ hole.templates⟩

/-! ## The scanner -/

/-- What was taken off the front of a text to leave `rest`. -/
def consumed (text rest : Text) : Text :=
  text.take (text.length - rest.length)

/-- Takes the rest of a string literal, up to the quote that ends it. -/
def scanString : Text → Option (Text × Text)
  | [] => none
  | '"' :: rest => some (['"'], rest)
  | '\\' :: c :: rest => (scanString rest).map fun (taken, after) => ('\\' :: c :: taken, after)
  | c :: rest => (scanString rest).map fun (taken, after) => (c :: taken, after)

mutual

/-- Scans a template whose opening backtick has been read. -/
def scanQuasis : Nat → Text → Option (ScannedTemplate × Text)
  | 0, _ => none
  | _ + 1, [] => none
  | fuel + 1, '\\' :: c :: rest =>
    (scanQuasis fuel rest).map fun (template, after) => (template.pushText ['\\', c], after)
  | _ + 1, '\x60' :: rest => some (⟨[[]], []⟩, rest)
  | fuel + 1, '$' :: '\x7b' :: rest => do
    let (hole, middle) ← scanHole fuel 0 rest
    let (template, after) ← scanQuasis fuel middle
    some (template.pushHole hole, after)
  | fuel + 1, c :: rest =>
    (scanQuasis fuel rest).map fun (template, after) => (template.pushText [c], after)

/-- Scans the rest of a hole, `depth` braces inside it. -/
def scanHole : Nat → Nat → Text → Option (ScannedHole × Text)
  | 0, _, _ => none
  | _ + 1, _, [] => none
  | _ + 1, 0, '\x7d' :: rest => some (⟨[], []⟩, rest)
  | fuel + 1, depth + 1, '\x7d' :: rest =>
    (scanHole fuel depth rest).map fun (hole, after) => (hole.push ['\x7d'] [], after)
  | fuel + 1, depth, '\x7b' :: rest =>
    (scanHole fuel (depth + 1) rest).map fun (hole, after) => (hole.push ['\x7b'] [], after)
  | fuel + 1, depth, '"' :: rest => do
    let (taken, middle) ← scanString rest
    let (hole, after) ← scanHole fuel depth middle
    some (hole.push ('"' :: taken) [], after)
  | fuel + 1, depth, '\x60' :: rest => do
    let (template, middle) ← scanQuasis fuel rest
    let (hole, after) ← scanHole fuel depth middle
    some (hole.push ('\x60' :: consumed rest middle) [template], after)
  | fuel + 1, depth, c :: rest =>
    (scanHole fuel depth rest).map fun (hole, after) => (hole.push [c] [], after)

end

attribute [local simp] scanQuasis scanHole

/-- Scans the template that a text begins with, from its opening backtick on. -/
def scanTemplate : Text → Option (ScannedTemplate × Text)
  | '\x60' :: rest => scanQuasis (rest.length + 1) rest
  | _ => none

/-! ## The steps of the scanner

`QuasisScan` and `HoleScans` say what is scanned with any bound that is large
enough.  There is one lemma for each step, and no later proof sees the bound. -/

def QuasisScan (text : Text) (template : ScannedTemplate) (rest : Text) : Prop :=
  rest.length < text.length ∧
    ∀ fuel, text.length < fuel → scanQuasis fuel text = some (template, rest)

def HoleScans (depth : Nat) (text : Text) (hole : ScannedHole) (rest : Text) : Prop :=
  rest.length < text.length ∧
    ∀ fuel, text.length < fuel → scanHole fuel depth text = some (hole, rest)

theorem QuasisScan.close (rest : Text) :
    QuasisScan ('\x60' :: rest) ⟨[[]], []⟩ rest := by
  refine ⟨by simp, ?_⟩
  intro fuel hfuel
  cases fuel with
  | zero => simp at hfuel
  | succ fuel => simp

theorem QuasisScan.escaped {text rest : Text} {template : ScannedTemplate} (c : Char)
    (h : QuasisScan text template rest) :
    QuasisScan ('\\' :: c :: text) (template.pushText ['\\', c]) rest := by
  obtain ⟨hlength, hscan⟩ := h
  refine ⟨by simp; omega, ?_⟩
  intro fuel hfuel
  cases fuel with
  | zero => simp at hfuel
  | succ fuel =>
      simp only [List.length_cons] at hfuel
      simp [hscan fuel (by omega)]

/-- Any other character belongs to the quasi, a dollar sign too if no brace follows it. -/
theorem QuasisScan.char {text rest : Text} {template : ScannedTemplate} {c : Char}
    (hbackslash : c ≠ '\\') (hbacktick : c ≠ '\x60')
    (hopening : c = '$' → text.head? ≠ some '\x7b')
    (h : QuasisScan text template rest) :
    QuasisScan (c :: text) (template.pushText [c]) rest := by
  obtain ⟨hlength, hscan⟩ := h
  refine ⟨by simp; omega, ?_⟩
  intro fuel hfuel
  cases fuel with
  | zero => simp at hfuel
  | succ fuel =>
      simp only [List.length_cons] at hfuel
      rw [scanQuasis, hscan fuel (by omega)]
      · rfl
      · intro _ _ hc _
        exact hbackslash hc
      · exact hbacktick
      · intro after hc htext
        exact hopening hc (by simp [htext])

theorem QuasisScan.hole {text middle rest : Text} {hole : ScannedHole}
    {template : ScannedTemplate} (hhole : HoleScans 0 text hole middle)
    (h : QuasisScan middle template rest) :
    QuasisScan ('$' :: '\x7b' :: text) (template.pushHole hole) rest := by
  obtain ⟨hholeLength, hholeScan⟩ := hhole
  obtain ⟨hlength, hscan⟩ := h
  refine ⟨by simp; omega, ?_⟩
  intro fuel hfuel
  cases fuel with
  | zero => simp at hfuel
  | succ fuel =>
      simp only [List.length_cons] at hfuel
      simp [hholeScan fuel (by omega), hscan fuel (by omega)]

theorem HoleScans.close (rest : Text) : HoleScans 0 ('\x7d' :: rest) ⟨[], []⟩ rest := by
  refine ⟨by simp, ?_⟩
  intro fuel hfuel
  cases fuel with
  | zero => simp at hfuel
  | succ fuel => simp

/-- In a hole, `piece` is scanned past: it leads from one depth to another, and `templates` begin
in it. -/
def Passes (piece : Text) (templates : List ScannedTemplate) (depth next : Nat) : Prop :=
  ∀ tail hole rest, HoleScans next tail hole rest →
    HoleScans depth (piece ++ tail) (hole.push piece templates) rest

theorem Passes.nil (depth : Nat) : Passes [] [] depth depth := by
  intro tail hole rest h
  cases hole
  simpa [ScannedHole.push] using h

theorem Passes.append {first second : Text} {before after : List ScannedTemplate}
    {depth middle next : Nat} (hfirst : Passes first before depth middle)
    (hsecond : Passes second after middle next) :
    Passes (first ++ second) (before ++ after) depth next := by
  intro tail hole rest h
  have := hfirst _ _ _ (hsecond _ _ _ h)
  simpa [ScannedHole.push] using this

theorem Passes.of_step {piece : Text} {templates : List ScannedTemplate} {depth next : Nat}
    (hpiece : piece ≠ [])
    (hstep : ∀ fuel tail hole rest, (piece ++ tail).length ≤ fuel →
      scanHole fuel next tail = some (hole, rest) →
      scanHole (fuel + 1) depth (piece ++ tail) = some (hole.push piece templates, rest)) :
    Passes piece templates depth next := by
  intro tail hole rest h
  obtain ⟨hlength, hscan⟩ := h
  have hpositive := List.length_pos_iff.mpr hpiece
  refine ⟨by simp only [List.length_append]; omega, ?_⟩
  intro fuel hfuel
  cases fuel with
  | zero => omega
  | succ fuel =>
      have htail : tail.length < fuel := by
        simp only [List.length_append] at hfuel
        omega
      exact hstep fuel tail hole rest (by omega) (hscan fuel htail)

theorem Passes.openBrace (depth : Nat) : Passes ['\x7b'] [] depth (depth + 1) := by
  apply Passes.of_step (by simp)
  intro fuel tail hole rest _ hscan
  simp [hscan]

theorem Passes.closeBrace (depth : Nat) : Passes ['\x7d'] [] (depth + 1) depth := by
  apply Passes.of_step (by simp)
  intro fuel tail hole rest _ hscan
  simp [hscan]

/-- The characters that a hole gives no meaning to. -/
def isInert (c : Char) : Bool :=
  c != '\x7b' && c != '\x7d' && c != '"' && c != '\x60'

theorem Passes.inert {c : Char} (hinert : isInert c = true) (depth : Nat) :
    Passes [c] [] depth depth := by
  simp only [isInert, Bool.and_eq_true, bne_iff_ne, ne_eq] at hinert
  obtain ⟨⟨⟨hopen, hclose⟩, hquote⟩, hbacktick⟩ := hinert
  apply Passes.of_step (by simp)
  intro fuel tail hole rest _ hscan
  rw [List.cons_append, List.nil_append, scanHole, hscan]
  · rfl
  · exact hopen
  · exact hquote
  · exact hbacktick
  · intro _ hc
    exact hclose hc
  · intro _ _ hc
    exact hclose hc

theorem Passes.string {taken : Text} (depth : Nat)
    (hstring : ∀ rest, scanString (taken ++ rest) = some (taken, rest)) :
    Passes ('"' :: taken) [] depth depth := by
  apply Passes.of_step (by simp)
  intro fuel tail hole rest _ hscan
  simp [hstring, hscan]

theorem Passes.template {body : Text} {template : ScannedTemplate} (depth : Nat)
    (htemplate : ∀ rest, QuasisScan (body ++ rest) template rest) :
    Passes ('\x60' :: body) [template] depth depth := by
  apply Passes.of_step (by simp)
  intro fuel tail hole rest hfuel hscan
  have hinner := (htemplate tail).2 fuel hfuel
  simp [hinner, hscan, consumed]

theorem scanTemplate_eq {text rest : Text} {template : ScannedTemplate}
    (h : QuasisScan text template rest) :
    scanTemplate ('\x60' :: text) = some (template, rest) := by
  simpa [scanTemplate] using h.2 (text.length + 1) (by omega)

end TaggedMarkup
