import Mathlib.Data.List.Basic
import TaggedMarkup.Proofs.Template.Escaping
import TaggedMarkup.Proofs.Template.Scanner
import TaggedMarkup.Proofs.Element.Compiled

/-!
# Printed templates scan back

A template is scannable if its tag is an identifier, its quasis are escaped
texts, and the program source in its holes is plain code whose braces match.
Scanning such a template, printed, gives back its raw quasis, the printed texts
of its holes, and the same for every template inside a hole.  Every template
that is compiled from a tree with plain expressions is scannable, whatever the
texts, names and attribute values of the tree are.
-/

namespace TaggedMarkup

/-! ## Plain code -/

/-- How deep in braces a text ends that begins at a depth; none if it closes more than it opens. -/
def depthAfter : Nat → Text → Option Nat
  | depth, [] => some depth
  | depth, '\x7b' :: rest => depthAfter (depth + 1) rest
  | 0, '\x7d' :: _ => none
  | depth + 1, '\x7d' :: rest => depthAfter depth rest
  | depth, _ :: rest => depthAfter depth rest

/-- A character of code without quotes, templates, comments and escapes. -/
def isCodeChar (c : Char) : Bool :=
  c != '"' && c != '\'' && c != '\x60' && c != '/' && c != '\\'

/-- The program source among the parts of an expression, joined. -/
def codeOf : List Part → Text
  | [] => []
  | .code text :: parts => text ++ codeOf parts
  | .tree _ :: parts => codeOf parts

/-- The source of an expression has plain characters only, and its braces match. -/
def Expression.isPlain (expression : Expression) : Bool :=
  (codeOf expression.parts).all isCodeChar &&
    depthAfter 0 (codeOf expression.parts) == some 0

theorem passes_code {text : Text} {depth next : Nat} (hcode : text.all isCodeChar = true)
    (hdepth : depthAfter depth text = some next) : Passes text [] depth next := by
  induction text generalizing depth with
  | nil =>
      simp only [depthAfter, Option.some.injEq] at hdepth
      subst hdepth
      exact Passes.nil depth
  | cons c rest ih =>
      simp only [List.all_cons, Bool.and_eq_true] at hcode
      obtain ⟨hc, hrest⟩ := hcode
      by_cases hopen : c = '\x7b'
      · subst hopen
        rw [depthAfter] at hdepth
        exact (Passes.openBrace depth).append (ih hrest hdepth)
      · by_cases hclose : c = '\x7d'
        · subst hclose
          cases depth with
          | zero => simp [depthAfter] at hdepth
          | succ depth =>
              rw [depthAfter] at hdepth
              exact (Passes.closeBrace depth).append (ih hrest hdepth)
        · rw [depthAfter] at hdepth
          · refine (Passes.inert ?_ depth).append (ih hrest hdepth)
            simp only [isCodeChar, Bool.and_eq_true, bne_iff_ne] at hc
            simp [isInert, hopen, hclose, hc]
          · exact hopen
          · intro _ hc
            exact hclose hc
          · intro _ _ hc
            exact hclose hc

/-! ## Identifiers and string literals -/

def isIdentifierStart (c : Char) : Bool :=
  Reference.isLetter c || c == '_' || c == '$'

/-- An identifier of ASCII letters, digits, `_` and `$`. -/
def isIdentifier : Text → Bool
  | [] => false
  | c :: rest =>
    isIdentifierStart c && rest.all fun d => isIdentifierStart d || Reference.isDecimal d

theorem isInert_of_identifierChar {c : Char}
    (h : (isIdentifierStart c || Reference.isDecimal c) = true) : isInert c = true := by
  simp only [isInert, Bool.and_eq_true, bne_iff_ne, ne_eq]
  refine ⟨⟨⟨?_, ?_⟩, ?_⟩, ?_⟩ <;>
    · rintro rfl
      revert h
      decide

theorem passes_inert {text : Text} (h : ∀ c ∈ text, isInert c = true) (depth : Nat) :
    Passes text [] depth depth := by
  induction text with
  | nil => exact Passes.nil depth
  | cons c rest ih =>
      have hc := h c List.mem_cons_self
      have hrest : ∀ d ∈ rest, isInert d = true := fun d hd => h d (List.mem_cons_of_mem c hd)
      exact (Passes.inert hc depth).append (ih hrest)

theorem passes_identifier {text : Text} (h : isIdentifier text = true) (depth : Nat) :
    Passes text [] depth depth := by
  cases text with
  | nil => exact Passes.nil depth
  | cons c rest =>
      simp only [isIdentifier, Bool.and_eq_true, List.all_eq_true] at h
      apply passes_inert
      intro d hd
      apply isInert_of_identifierChar
      rcases List.mem_cons.mp hd with rfl | hd
      · simp [h.1]
      · exact h.2 d hd

theorem scanString_pair (c : Char) (rest : Text) :
    scanString ('\\' :: c :: rest) =
      (scanString rest).map fun (taken, after) => ('\\' :: c :: taken, after) := by
  simp [scanString]

theorem scanString_run {run : Text} (h : ∀ c ∈ run, c ≠ '"' ∧ c ≠ '\\') (rest : Text) :
    scanString (run ++ rest) =
      (scanString rest).map fun (taken, after) => (run ++ taken, after) := by
  induction run with
  | nil => simp
  | cons c run ih =>
      obtain ⟨hquote, hbackslash⟩ := h c List.mem_cons_self
      rw [List.cons_append, scanString, ih fun d hd => h d (List.mem_cons_of_mem c hd)]
      · cases scanString rest <;> rfl
      · exact hquote
      · intro _ _ hc _
        exact hbackslash hc

theorem digitChar_ne (digit : Nat) : digit.digitChar ≠ '"' ∧ digit.digitChar ≠ '\\' := by
  fun_cases Nat.digitChar digit <;> decide

theorem ne_of_mem_toDigits {code : Nat} {c : Char} (h : c ∈ Nat.toDigits 16 code) :
    c ≠ '"' ∧ c ≠ '\\' := by
  induction code using Nat.strongRecOn with
  | ind code ih =>
      rw [Nat.toDigits_eq_if (by decide)] at h
      split at h
      case isTrue =>
        rw [List.mem_singleton.mp h]
        exact digitChar_ne code
      case isFalse hlarge =>
        rcases List.mem_append.mp h with h | h
        · exact ih (code / 16) (by omega) h
        · rw [List.mem_singleton.mp h]
          exact digitChar_ne (code % 16)

theorem ne_of_mem_hexadecimal {width code : Nat} {c : Char}
    (h : c ∈ Quoted.hexadecimal width code) : c ≠ '"' ∧ c ≠ '\\' := by
  rcases List.mem_append.mp h with h | h
  · rw [List.eq_of_mem_replicate h]
    decide
  · exact ne_of_mem_toDigits h

/-- Whatever a string literal writes for a character, it does not end the literal. -/
theorem scanString_literalChar (c : Char) (rest : Text) :
    scanString (literalChar c ++ rest) =
      (scanString rest).map fun (taken, after) => (literalChar c ++ taken, after) := by
  unfold literalChar
  repeat' split
  any_goals exact scanString_pair _ rest
  · rw [List.cons_append, List.cons_append, scanString_pair,
      scanString_run fun _ => ne_of_mem_hexadecimal]
    cases scanString rest <;> rfl
  · rename_i hquote hbackslash _ _ _ _ _ _
    apply scanString_run
    intro d hd
    rw [List.mem_singleton] at hd
    subst hd
    exact ⟨hquote, hbackslash⟩

theorem scanString_literal (text rest : Text) :
    scanString (text.flatMap literalChar ++ ['"'] ++ rest) =
      some (text.flatMap literalChar ++ ['"'], rest) := by
  induction text with
  | nil => simp [scanString]
  | cons c text ih =>
      simp only [List.flatMap_cons, List.append_assoc] at ih ⊢
      rw [scanString_literalChar, ih]
      rfl

theorem passes_stringLiteral (text : Text) (depth : Nat) :
    Passes (stringLiteral text) [] depth depth :=
  Passes.string depth (scanString_literal text)

/-! ## Escaped quasis -/

/-- An escaped text is scanned as it stands, up to whatever ends the quasi. -/
theorem QuasisScan.escape {tail rest quasi : Text} {quasis : List Text}
    {holes : List ScannedHole} (text : Text) (htail : tail.head? ≠ some '\x7b')
    (h : QuasisScan tail ⟨quasi :: quasis, holes⟩ rest) :
    QuasisScan (escape text ++ tail) ⟨(escape text ++ quasi) :: quasis, holes⟩ rest := by
  apply escape_induction
    (motive := fun taken text => QuasisScan text ⟨(taken ++ quasi) :: quasis, holes⟩ rest) htail h
  · intro c taken text ih
    exact ih.escaped c
  · intro c taken text hbackslash hbacktick hopening ih
    exact ih.char hbackslash hbacktick hopening

/-! ## Scannable templates -/

mutual

/-- The template as scanning its printed text should show it. -/
def Template.scanned : Template → ScannedTemplate
  | ⟨_, quasis, holes⟩ => ⟨quasis, scannedHoles holes⟩

def Hole.scanned : Hole → ScannedHole
  | .source parts => ⟨Hole.render (.source parts), scannedParts parts⟩
  | .literal text => ⟨Hole.render (.literal text), []⟩
  | .template template => ⟨Hole.render (.template template), [template.scanned]⟩
  | .blank => ⟨Hole.render .blank, []⟩

def scannedHoles : List Hole → List ScannedHole
  | [] => []
  | hole :: holes => hole.scanned :: scannedHoles holes

def scannedParts : List SourcePart → List ScannedTemplate
  | [] => []
  | .code _ :: parts => scannedParts parts
  | .template template :: parts => template.scanned :: scannedParts parts

end

def sourceCode : List SourcePart → Text
  | [] => []
  | .code text :: parts => text ++ sourceCode parts
  | .template _ :: parts => sourceCode parts

mutual

/-- Nothing in the template can be mistaken for the end of a quasi or of a hole. -/
def Template.Scannable : Template → Prop
  | ⟨tag, quasis, holes⟩ =>
    isIdentifier tag = true ∧ quasis.length = holes.length + 1 ∧
      (∀ quasi ∈ quasis, ∃ text, quasi = escape text) ∧ HolesScannable holes

def Hole.Scannable : Hole → Prop
  | .source parts =>
    (sourceCode parts).all isCodeChar = true ∧ depthAfter 0 (sourceCode parts) = some 0 ∧
      PartsScannable parts
  | .literal _ => True
  | .template template => template.Scannable
  | .blank => False

def HolesScannable : List Hole → Prop
  | [] => True
  | hole :: holes => hole.Scannable ∧ HolesScannable holes

def PartsScannable : List SourcePart → Prop
  | [] => True
  | .code _ :: parts => PartsScannable parts
  | .template template :: parts => template.Scannable ∧ PartsScannable parts

end

def Template.body (template : Template) : Text :=
  template.quasis.headD [] ++ renderHoles template.holes template.quasis.tail ++ ['\x60']

theorem Template.render_eq (template : Template) :
    template.render = template.tag ++ '\x60' :: template.body := by
  cases template
  simp [Template.render, Template.body]

theorem depthAfter_append {depth next : Nat} {first second : Text}
    (h : depthAfter depth (first ++ second) = some next) :
    ∃ middle, depthAfter depth first = some middle ∧ depthAfter middle second = some next := by
  fun_induction depthAfter depth first with
  | case1 depth => exact ⟨depth, rfl, h⟩
  | case2 depth rest ih => exact ih (by simpa [depthAfter] using h)
  | case3 rest => simp [depthAfter] at h
  | case4 depth rest ih => exact ih (by simpa [depthAfter] using h)
  | case5 depth c rest hopen hnone hclose ih =>
      rw [List.cons_append, depthAfter] at h
      · exact ih h
      · exact hopen
      · exact hnone
      · exact hclose

theorem head?_renderHoles (holes : List Hole) (quasis : List Text) (rest : Text) :
    (renderHoles holes quasis ++ '\x60' :: rest).head? ≠ some '\x7b' := by
  unfold renderHoles
  split <;> simp

mutual

theorem Template.quasisScan :
    ∀ template : Template, template.Scannable → ∀ rest : Text,
      QuasisScan (template.body ++ rest) template.scanned rest
  | ⟨tag, quasis, holes⟩, h, rest => by
      rw [Template.Scannable] at h
      obtain ⟨-, hlength, hescaped, hholes⟩ := h
      cases quasis with
      | nil => simp at hlength
      | cons quasi quasis =>
          obtain ⟨text, rfl⟩ := hescaped quasi List.mem_cons_self
          have hafter := renderHoles_scan holes quasis hholes (by simpa using hlength)
            (fun other hother => hescaped other (List.mem_cons_of_mem _ hother)) rest
          have := QuasisScan.escape text (head?_renderHoles holes quasis rest) hafter
          simpa [Template.body, Template.scanned] using this

theorem Template.passes :
    ∀ template : Template, template.Scannable → ∀ depth : Nat,
      Passes template.render [template.scanned] depth depth
  | ⟨tag, quasis, holes⟩, h, depth => by
      have htag : isIdentifier tag = true := by
        rw [Template.Scannable] at h
        exact h.1
      rw [Template.render_eq]
      exact (passes_identifier htag depth).append
        (Passes.template depth (Template.quasisScan ⟨tag, quasis, holes⟩ h))

theorem Hole.scans :
    ∀ hole : Hole, hole.Scannable → ∀ rest : Text,
      HoleScans 0 (hole.render ++ '\x7d' :: rest) hole.scanned rest
  | .source parts, h, rest => by
      rw [Hole.Scannable] at h
      obtain ⟨hcode, hdepth, hparts⟩ := h
      have := renderParts_passes parts hparts 0 0 hcode hdepth _ _ _ (HoleScans.close rest)
      simpa [Hole.render, Hole.scanned, ScannedHole.push] using this
  | .literal text, h, rest => by
      have := passes_stringLiteral text 0 _ _ _ (HoleScans.close rest)
      simpa [Hole.render, Hole.scanned, ScannedHole.push] using this
  | .template template, h, rest => by
      rw [Hole.Scannable] at h
      have := Template.passes template h 0 _ _ _ (HoleScans.close rest)
      simpa [Hole.render, Hole.scanned, ScannedHole.push] using this
  | .blank, h, rest => by
      simp [Hole.Scannable] at h

theorem renderHoles_scan :
    ∀ (holes : List Hole) (quasis : List Text), HolesScannable holes →
      quasis.length = holes.length → (∀ quasi ∈ quasis, ∃ text, quasi = escape text) →
      ∀ rest : Text, QuasisScan (renderHoles holes quasis ++ '\x60' :: rest)
        ⟨[] :: quasis, scannedHoles holes⟩ rest
  | [], [], hholes, hlength, hescaped, rest => by
      simpa [renderHoles, scannedHoles] using QuasisScan.close rest
  | [], quasi :: quasis, hholes, hlength, hescaped, rest => by
      simp at hlength
  | hole :: holes, [], hholes, hlength, hescaped, rest => by
      simp at hlength
  | hole :: holes, quasi :: quasis, hholes, hlength, hescaped, rest => by
      rw [HolesScannable] at hholes
      obtain ⟨text, rfl⟩ := hescaped quasi List.mem_cons_self
      have hafter := renderHoles_scan holes quasis hholes.2 (by simpa using hlength)
        (fun other hother => hescaped other (List.mem_cons_of_mem _ hother)) rest
      have hquasi := QuasisScan.escape text (head?_renderHoles holes quasis rest) hafter
      have := QuasisScan.hole (Hole.scans hole hholes.1 _) hquasi
      simpa [renderHoles, scannedHoles, ScannedTemplate.pushHole] using this

theorem renderParts_passes :
    ∀ parts : List SourcePart, PartsScannable parts → ∀ depth next : Nat,
      (sourceCode parts).all isCodeChar = true →
      depthAfter depth (sourceCode parts) = some next →
      Passes (renderParts parts) (scannedParts parts) depth next
  | [], hparts, depth, next, hcode, hdepth => by
      simp only [sourceCode, depthAfter, Option.some.injEq] at hdepth
      subst hdepth
      simpa [renderParts, scannedParts] using Passes.nil depth
  | .code text :: parts, hparts, depth, next, hcode, hdepth => by
      simp only [sourceCode, List.all_append, Bool.and_eq_true] at hcode
      rw [PartsScannable] at hparts
      rw [sourceCode] at hdepth
      obtain ⟨middle, htext, hrest⟩ := depthAfter_append hdepth
      have := (passes_code hcode.1 htext).append
        (renderParts_passes parts hparts middle next hcode.2 hrest)
      simpa [renderParts, SourcePart.render, scannedParts] using this
  | .template template :: parts, hparts, depth, next, hcode, hdepth => by
      rw [PartsScannable] at hparts
      rw [sourceCode] at hcode hdepth
      have := (Template.passes template hparts.1 depth).append
        (renderParts_passes parts hparts.2 depth next hcode hdepth)
      simpa [renderParts, SourcePart.render, scannedParts] using this

end

/-! ## Compiled templates -/

theorem holesScannable_iff {holes : List Hole} :
    HolesScannable holes ↔ ∀ hole ∈ holes, hole.Scannable := by
  induction holes with
  | nil => simp [HolesScannable]
  | cons hole holes ih => simp [HolesScannable, ih]

theorem partsScannable_iff {parts : List SourcePart} :
    PartsScannable parts ↔ ∀ template, .template template ∈ parts → template.Scannable := by
  induction parts with
  | nil => simp [PartsScannable]
  | cons part parts ih =>
      cases part with
      | code text => simp [PartsScannable, ih]
      | template template =>
          simp only [PartsScannable, ih, List.mem_cons, SourcePart.template.injEq]
          constructor
          · rintro ⟨hfirst, hothers⟩ other (rfl | hother)
            · exact hfirst
            · exact hothers other hother
          · intro h
            exact ⟨h template (.inl rfl), fun other hother => h other (.inr hother)⟩

/-- Compiling the trees in an expression leaves its program source as it is. -/
theorem sourceCode_compileParts {settings : Settings} {parts : List Part}
    {compiled : List SourcePart} (h : compileParts settings parts = .ok compiled) :
    sourceCode compiled = codeOf parts := by
  induction parts generalizing compiled with
  | nil =>
      simp only [compileParts, Except.ok.injEq] at h
      subst h
      rfl
  | cons part parts ih =>
      obtain ⟨first, others, hfirst, hothers, rfl⟩ := compileParts_cons h
      cases part with
      | code text =>
          simp only [compilePart, Except.ok.injEq] at hfirst
          subst hfirst
          rw [sourceCode, codeOf, ih hothers]
      | tree tree =>
          obtain ⟨template, -, rfl⟩ := compilePart_tree hfirst
          rw [sourceCode, codeOf, ih hothers]

theorem inherited_scannable {settings : Settings} (htag : isIdentifier settings.tag = true) :
    Inherited settings (fun expression => expression.isPlain = true) Hole.Scannable
      Template.Scannable where
  literal text := by simp [Hole.Scannable]
  nested template h := by simpa [Hole.Scannable] using h
  source expression parts hplain hcompile htemplates := by
    simp only [Expression.isPlain, Bool.and_eq_true, beq_iff_eq] at hplain
    rw [Hole.Scannable, sourceCode_compileParts hcompile]
    exact ⟨hplain.1, hplain.2, partsScannable_iff.mpr htemplates⟩
  built segments hholes := by
    rw [Template.ofSegments_eq, Template.Scannable]
    refine ⟨htag, by simp [length_textsOf], ?_, ?_⟩
    · intro quasi hquasi
      obtain ⟨text, -, rfl⟩ := List.mem_map.mp hquasi
      exact ⟨text, rfl⟩
    · rw [holesScannable_iff]
      intro hole hmem
      exact hholes hole (mem_holesOf.mp hmem)

/-- A compiled template, printed, is its tag and a text that scans back to the raw quasis, the
printed holes and, in each hole, the templates inside it, and that ends where the scan ends. -/
theorem scanTemplate_printed (settings : Settings) (tree : Tree) (template : Template)
    (htag : isIdentifier settings.tag = true)
    (hplain : ∀ expression, .expression expression ∈ tree.mentions →
      expression.isPlain = true)
    (hcompile : compile settings tree = .ok template) :
    ∃ body, template.print? = some (settings.tag ++ body) ∧
      ∀ rest, scanTemplate (body ++ rest) = some (template.scanned, rest) := by
  have hscannable := compile_induction (inherited_scannable htag) tree template hplain hcompile
  refine ⟨'\x60' :: template.body, ?_, ?_⟩
  · rw [print?_of_compile hcompile, Template.render_eq, tag_of_compile hcompile]
  · intro rest
    exact scanTemplate_eq (Template.quasisScan template hscannable rest)

/-- An element with a dollar sign just before a hole, text that must be escaped, and a hole whose
source is broken, inside braces, by a tree with text that looks like the end of the hole. -/
def nestedTree : Tree :=
  .element {
    name := .dynamic ⟨[.code ['F']], {}⟩
    children := [.text ['\x60', '$'],
      .expression ⟨[.code ['f', '\x7b'],
        .tree (.element { name := .static ['b'], children := [.text ['\x7d', '\x60', '\\']] }),
        .code ['\x7d']], {}⟩] }

theorem scanTemplate_nestedTree :
    isIdentifier (Settings.tag {}) = true ∧
    (∀ expression, .expression expression ∈ nestedTree.mentions → expression.isPlain = true) ∧
    ∃ template body, compile {} nestedTree = .ok template ∧
      template.print? = some (Settings.tag {} ++ body) ∧
      scanTemplate body = some (template.scanned, []) := by
  have htag : isIdentifier (Settings.tag {}) = true := by decide
  have hplain : ∀ expression, .expression expression ∈ nestedTree.mentions →
      expression.isPlain = true := by
    intro expression hmem
    simp only [nestedTree, Tree.mentions, Element.mentions, TagName.mentions, Expression.mentions,
      Child.mentions, Part.mentions, mentionsOfAttributes, mentionsOfChildren, mentionsOfParts,
      List.cons_append, List.nil_append, List.append_nil, List.mem_cons, Mention.expression.injEq,
      reduceCtorEq, List.not_mem_nil, or_false] at hmem
    rcases hmem with rfl | rfl <;> decide
  obtain ⟨template, hcompile⟩ : ∃ template, compile {} nestedTree = .ok template :=
    ⟨_, by cbv⟩
  obtain ⟨body, hprint, hscan⟩ :=
    scanTemplate_printed {} nestedTree template htag hplain hcompile
  refine ⟨htag, hplain, template, body, hcompile, hprint, ?_⟩
  have := hscan []
  rwa [List.append_nil] at this

end TaggedMarkup
