import Mathlib.Data.Nat.Init
import TaggedMarkup.Proofs.Markup.NormalForm
import TaggedMarkup.Proofs.Markup.Reader

/-!
# What the reader reads

Rules for the markup reader, from single characters to elements.  Each says
what is read from some symbols, whatever symbols follow them, as long as these
do not go on with what was read.
-/

namespace TaggedMarkup

/-- A name that ends where it is meant to end, and does not look like a spread. -/
def isReadableName (name : Text) : Bool :=
  !name.isEmpty && name.all isNameChar && !(['.', '.', '.'].isPrefixOf name)

/-! ## Runs of characters -/

@[simp] theorem symbolsOf_nil : symbolsOf [] = [] := rfl

@[simp] theorem symbolsOf_cons (c : Char) (text : Text) :
    symbolsOf (c :: text) = .char c :: symbolsOf text := rfl

@[simp] theorem symbolsOf_append (first second : Text) :
    symbolsOf (first ++ second) = symbolsOf first ++ symbolsOf second := by
  simp [symbolsOf]

/-- The sequence does not go on with a character of the class. -/
def EndsRun (p : Char → Bool) (symbols : List Symbol) : Prop :=
  ∀ c rest, symbols = .char c :: rest → p c = false

theorem readRun_of_endsRun {p : Char → Bool} {symbols : List Symbol}
    (h : EndsRun p symbols) : readRun p symbols = ([], symbols) := by
  cases symbols with
  | nil => rfl
  | cons symbol rest =>
      cases symbol with
      | char c => simp [readRun, h c rest rfl]
      | hole hole content => rfl

theorem readRun_append {p : Char → Bool} {run : Text} {rest : List Symbol}
    (hrun : ∀ c ∈ run, p c = true) (hrest : EndsRun p rest) :
    readRun p (symbolsOf run ++ rest) = (run, rest) := by
  induction run with
  | nil => exact readRun_of_endsRun hrest
  | cons c run ih =>
      have hc := hrun c List.mem_cons_self
      have htail := ih fun d hd => hrun d (List.mem_cons_of_mem c hd)
      simp [readRun, hc, htail]

theorem mem_readRun {p : Char → Bool} {symbols : List Symbol} {c : Char}
    (h : c ∈ (readRun p symbols).1) : p c = true := by
  fun_induction readRun p symbols with
  | case1 d symbols hd run rest hrec ih =>
      rw [hrec] at ih
      rcases List.mem_cons.mp h with rfl | h
      · exact hd
      · exact ih h
  | case2 d symbols hd => simp at h
  | case3 symbols hshape => simp at h

/-! ## Reading content

`Reads` says what content is read from a sequence with any bound that is large
enough.  It also says that a string literal at the start of the sequence holds
`<`: such a text is never joined to the text before it. -/

attribute [local simp] readContent

structure Reads (symbols : List Symbol) (content : List Child) (stop : List Symbol) : Prop where
  result : ∀ fuel, symbols.length < fuel → readContent fuel symbols = some (content, stop)
  literal : ∀ hole text rest, symbols = .hole hole (some (.text text)) :: rest →
    text.contains '<' = true

theorem Reads.nil : Reads [] [] [] where
  result fuel hfuel := by
    cases fuel with
    | zero => simp at hfuel
    | succ fuel => rfl
  literal hole text rest h := by simp at h

theorem Reads.closing (rest : List Symbol) :
    Reads (.char '<' :: .char '/' :: rest) [] (.char '<' :: .char '/' :: rest) where
  result fuel hfuel := by
    cases fuel with
    | zero => simp at hfuel
    | succ fuel => simp
  literal hole text rest h := by simp at h

theorem readContent_char {c : Char} (hc : c ≠ '<') (fuel : Nat) (symbols : List Symbol) :
    readContent (fuel + 1) (.char c :: symbols) =
      (readContent fuel (readRun (· != '<') symbols).2).map fun (content, stop) =>
        (.text (c :: (readRun (· != '<') symbols).1) :: content, stop) := by
  rw [readContent]
  · simp only [readRun, bne_iff_ne, ne_eq, hc, not_false_eq_true, if_true]
    cases readContent fuel (readRun (· != '<') symbols).2 <;> rfl
  · intro _ _ heq
    exact hc heq
  · exact hc

theorem readContent_element {symbols : List Symbol}
    (hname : ∀ rest, symbols ≠ .char '/' :: rest) (fuel : Nat) :
    readContent (fuel + 1) (.char '<' :: symbols) =
      (readElement fuel symbols).bind fun (element, rest) =>
        (readContent fuel rest).map fun (content, stop) => (.element element :: content, stop) := by
  rw [readContent]
  · cases readElement fuel symbols with
    | none => rfl
    | some result =>
        cases hafter : readContent fuel result.2 <;> simp [hafter]
  · exact hname

/-- Where no text begins, content does not begin with one that could be joined. -/
theorem Reads.text_contains {symbols stop : List Symbol} {text : Text} {others : List Child}
    (hends : EndsRun (· != '<') symbols) (h : Reads symbols (.text text :: others) stop) :
    text.contains '<' = true := by
  have hresult := h.result (symbols.length + 1) (by omega)
  cases symbols with
  | nil => simp at hresult
  | cons symbol rest =>
      cases symbol with
      | char c =>
          have hc := hends c rest rfl
          simp only [bne_eq_false_iff_eq] at hc
          subst hc
          by_cases hclosing : ∃ after, rest = .char '/' :: after
          · obtain ⟨after, rfl⟩ := hclosing
            simp at hresult
          · rw [readContent_element fun after hafter => hclosing ⟨after, hafter⟩] at hresult
            simp [Option.bind_eq_some_iff] at hresult
      | hole hole content =>
          cases content with
          | none => simp at hresult
          | some held =>
              cases held with
              | text held =>
                  simp only [readContent, Option.bind_eq_bind, Option.bind_eq_some_iff,
                    Option.some.injEq, Prod.mk.injEq, List.cons.injEq, Child.text.injEq] at hresult
                  obtain ⟨_, _, ⟨rfl, _⟩, _⟩ := hresult
                  exact h.literal hole held rest rfl
              | expression expression =>
                  simp [Option.bind_eq_some_iff] at hresult

theorem Reads.char {c : Char} {symbols stop : List Symbol} {content : List Child}
    (hc : c ≠ '<') (h : Reads symbols content stop) :
    Reads (.char c :: symbols) (putText [c] content) stop where
  literal hole text rest h := by simp at h
  result fuel hfuel := by
    cases fuel with
    | zero => simp at hfuel
    | succ fuel =>
        simp only [List.length_cons] at hfuel
        rw [readContent_char hc]
        -- Either the text goes on, and was read as one run, or it ends here.
        by_cases hends : EndsRun (· != '<') symbols
        · simp only [readRun_of_endsRun hends, h.result fuel (by omega), Option.map_some,
            Option.some.injEq, Prod.mk.injEq, and_true]
          match content, h with
          | [], _ => simp [putText]
          | .text text :: others, h =>
              have hliteral := h.text_contains hends
              simp only [List.contains_eq_mem, decide_eq_true_eq] at hliteral
              simp [putText, hliteral]
          | .expression _ :: _, _ => simp [putText]
          | .element _ :: _, _ => simp [putText]
          | .empty :: _, _ => simp [putText]
          | .spread _ :: _, _ => simp [putText]
          | .blank :: _, _ => simp [putText]
        · simp only [EndsRun, Classical.not_forall] at hends
          obtain ⟨d, rest, rfl, hd⟩ := hends
          simp only [bne_eq_false_iff_eq] at hd
          have hresult := h.result (fuel + 1) (by omega)
          rw [readContent_char hd] at hresult
          simp only [readRun, bne_iff_ne, ne_eq, hd, not_false_eq_true, if_true]
          cases hafter : readContent fuel (readRun (· != '<') rest).2 with
          | none => simp [hafter] at hresult
          | some after =>
              simp only [hafter, Option.map_some, Option.some.injEq, Prod.mk.injEq] at hresult
              obtain ⟨rfl, rfl⟩ := hresult
              have hplain : '<' ∉ (readRun (· != '<') rest).1 := by
                intro hmem
                have := mem_readRun hmem
                simp at this
              simp [putText, Ne.symm hc, Ne.symm hd, hplain]

theorem putText_cons {c : Char} {text : Text} (hc : c ≠ '<') (htext : '<' ∉ text)
    (content : List Child) : putText [c] (putText text content) = putText (c :: text) content := by
  cases text with
  | nil => rfl
  | cons d text =>
      simp only [List.mem_cons, not_or] at htext
      match content with
      | [] => simp [putText, Ne.symm hc, htext]
      | .text next :: others =>
          by_cases hnext : '<' ∈ next <;> simp [putText, Ne.symm hc, htext, hnext]
      | .expression _ :: _ => simp [putText, Ne.symm hc, htext]
      | .element _ :: _ => simp [putText, Ne.symm hc, htext]
      | .empty :: _ => simp [putText, Ne.symm hc, htext]
      | .spread _ :: _ => simp [putText, Ne.symm hc, htext]
      | .blank :: _ => simp [putText, Ne.symm hc, htext]

theorem Reads.text {text : Text} {symbols stop : List Symbol} {content : List Child}
    (htext : '<' ∉ text) (h : Reads symbols content stop) :
    Reads (symbolsOf text ++ symbols) (putText text content) stop := by
  induction text with
  | nil => exact h
  | cons c text ih =>
      simp only [List.mem_cons, not_or] at htext
      have := (ih htext.2).char (Ne.symm htext.1)
      rwa [putText_cons (Ne.symm htext.1) htext.2] at this

theorem Reads.demoted {text : Text} {symbols stop : List Symbol} {content : List Child}
    (hole : Hole) (htext : text.contains '<' = true) (h : Reads symbols content stop) :
    Reads (.hole hole (some (.text text)) :: symbols) (putText text content) stop where
  literal hole' text' rest heq := by
    simp only [List.cons.injEq, Symbol.hole.injEq, Option.some.injEq,
      HoleContent.text.injEq] at heq
    rw [← heq.1.2]
    exact htext
  result fuel hfuel := by
    cases fuel with
    | zero => simp at hfuel
    | succ fuel =>
        simp only [List.length_cons] at hfuel
        have hput : putText text content = .text text :: content := by
          unfold putText
          split
          · simp_all
          · split <;> simp_all
        simp [h.result fuel (by omega), hput]

theorem Reads.expression {symbols stop : List Symbol} {content : List Child} (hole : Hole)
    (expression : Expression) (h : Reads symbols content stop) :
    Reads (.hole hole (some (.expression expression)) :: symbols)
      (.expression expression :: content) stop where
  literal hole' text' rest heq := by simp at heq
  result fuel hfuel := by
    cases fuel with
    | zero => simp at hfuel
    | succ fuel =>
        simp only [List.length_cons] at hfuel
        simp [h.result fuel (by omega)]

theorem Reads.element {symbols rest stop : List Symbol} {element : Element}
    {content : List Child} (hname : ∀ after, symbols ≠ .char '/' :: after)
    (hlength : rest.length ≤ symbols.length)
    (helement : ∀ fuel, symbols.length < fuel → readElement fuel symbols = some (element, rest))
    (h : Reads rest content stop) :
    Reads (.char '<' :: symbols) (.element element :: content) stop where
  literal hole' text' rest heq := by simp at heq
  result fuel hfuel := by
    cases fuel with
    | zero => simp at hfuel
    | succ fuel =>
        simp only [List.length_cons] at hfuel
        simp [readContent_element hname, helement fuel (by omega), h.result fuel (by omega)]

/-! ## Reading tags -/

/-- What follows a name or an attribute. -/
def EndsWord (symbols : List Symbol) : Prop :=
  ∃ c rest, symbols = .char c :: rest ∧ (c = ' ' ∨ c = '/' ∨ c = '>')

/-- What follows the attributes of a tag. -/
def EndsTag (symbols : List Symbol) : Prop :=
  ∃ c rest, symbols = .char c :: rest ∧ (c = '/' ∨ c = '>')

theorem EndsWord.endsRun {symbols : List Symbol} (h : EndsWord symbols) :
    EndsRun isNameChar symbols := by
  obtain ⟨c, rest, rfl, hc⟩ := h
  intro d after heq
  cases heq
  rcases hc with rfl | rfl | rfl <;> decide

theorem EndsTag.endsWord {symbols : List Symbol} (h : EndsTag symbols) : EndsWord symbols := by
  obtain ⟨c, rest, rfl, hc⟩ := h
  exact ⟨c, rest, rfl, .inr hc⟩

/-- A name is read from these symbols, whatever ends it. -/
structure NameReads (symbols : List Symbol) (mark : Mark) (name : TagName) : Prop where
  result : ∀ rest, EndsWord rest → readName (symbols ++ rest) = some (mark, name, rest)
  start : ∀ rest after, symbols ++ rest ≠ .char '/' :: after
  length_pos : 0 < symbols.length

/-- An attribute is read from these symbols, whatever ends it. -/
def AttributeReads (symbols : List Symbol) (item : Attribute) : Prop :=
  ∀ rest, EndsWord rest → readAttribute (symbols ++ rest) = some (item, rest)

/-- Attributes are read from these symbols, each with its space. -/
structure AttributesRead (symbols : List Symbol) (attributes : List Attribute) : Prop where
  result : ∀ fuel rest, EndsTag rest → (symbols ++ rest).length < fuel →
    readAttributes fuel (symbols ++ rest) = some (attributes, rest)
  endsWord : ∀ rest, EndsTag rest → EndsWord (symbols ++ rest)

theorem NameReads.hole (hole : Hole) (expression : Expression) :
    NameReads [.hole hole (some (.expression expression))] (.hole hole)
      (.dynamic expression) where
  result rest hrest := by simp [readName]
  start rest after := by simp
  length_pos := by simp

theorem isReadableName_iff {name : Text} :
    isReadableName name = true ↔
      name ≠ [] ∧ (∀ c ∈ name, isNameChar c = true) ∧ ¬ ['.', '.', '.'] <+: name := by
  simp [isReadableName, and_assoc, ← Bool.not_eq_true, List.isPrefixOf_iff_prefix]

theorem NameReads.word {name : Text} (hname : isReadableName name = true) :
    NameReads (symbolsOf name) (.word name) (.static name) := by
  obtain ⟨hne, hchars, -⟩ := isReadableName_iff.mp hname
  cases name with
  | nil => exact absurd rfl hne
  | cons c name =>
      refine ⟨?_, ?_, by simp⟩
      · intro rest hrest
        have hrun := readRun_append hchars hrest.endsRun
        rw [symbolsOf_cons, List.cons_append] at hrun ⊢
        rw [readName, hrun]
        intro _ _ _ heq
        cases heq
      · intro rest after heq
        simp only [symbolsOf_cons, List.cons_append, List.cons.injEq, Symbol.char.injEq] at heq
        have := hchars c List.mem_cons_self
        rw [heq.1] at this
        revert this
        decide

theorem AttributesRead.nil : AttributesRead [] [] where
  endsWord rest hrest := hrest.endsWord
  result fuel rest hrest hfuel := by
    cases fuel with
    | zero => simp at hfuel
    | succ fuel =>
        obtain ⟨c, after, rfl, hc⟩ := hrest
        rw [List.nil_append, readAttributes]
        rintro _ heq
        cases heq
        simp at hc

theorem AttributesRead.cons {symbols given : List Symbol} {item : Attribute}
    {attributes : List Attribute} (hitem : AttributeReads symbols item)
    (hattributes : AttributesRead given attributes) :
    AttributesRead (.char ' ' :: symbols ++ given) (item :: attributes) where
  endsWord rest hrest := ⟨' ', symbols ++ given ++ rest, by simp, .inl rfl⟩
  result fuel rest hrest hfuel := by
    cases fuel with
    | zero => simp at hfuel
    | succ fuel =>
        have hothers := hattributes.result fuel rest hrest (by simp at hfuel ⊢; omega)
        rw [List.cons_append, List.cons_append, List.append_assoc, readAttributes,
          hitem _ (hattributes.endsWord rest hrest)]
        simp [hothers]

/-- A readable name is not taken for the dots of a spread. -/
theorem symbolsOf_append_ne_spread {name : Text} {rest : List Symbol}
    (hname : isReadableName name = true) (hrest : EndsRun isNameChar rest)
    (after : List Symbol) :
    symbolsOf name ++ rest ≠ .char '.' :: .char '.' :: .char '.' :: after := by
  obtain ⟨hne, -, hdots⟩ := isReadableName_iff.mp hname
  have hdot : ∀ more, rest ≠ .char '.' :: more := by
    intro more heq
    have := hrest '.' more heq
    revert this
    decide
  intro heq
  match name with
  | [] => exact hne rfl
  | [c] =>
      simp only [symbolsOf_cons, symbolsOf_nil, List.cons_append, List.nil_append,
        List.cons.injEq] at heq
      exact hdot _ heq.2
  | [c, d] =>
      simp only [symbolsOf_cons, symbolsOf_nil, List.cons_append, List.nil_append,
        List.cons.injEq] at heq
      exact hdot _ heq.2.2
  | c :: d :: e :: name =>
      simp only [symbolsOf_cons, List.cons_append, List.cons.injEq, Symbol.char.injEq] at heq
      obtain ⟨rfl, rfl, rfl, -⟩ := heq
      exact hdots ⟨name, rfl⟩

theorem readAttribute_word {name : Text} {rest : List Symbol}
    (hname : isReadableName name = true) (hrest : EndsRun isNameChar rest) :
    readAttribute (symbolsOf name ++ rest) =
      match rest with
      | .char '=' :: after => readValue name after
      | _ => some (.flag name, rest) := by
  have hspread := symbolsOf_append_ne_spread hname hrest
  obtain ⟨hne, hchars, -⟩ := isReadableName_iff.mp hname
  cases name with
  | nil => exact absurd rfl hne
  | cons c name =>
      rw [readAttribute, readRun_append hchars hrest]
      · cases rest with
        | nil => rfl
        | cons symbol rest =>
            cases symbol with
            | char d =>
                by_cases hd : d = '='
                · subst hd
                  rfl
                · simp [hd]
            | hole hole content => rfl
      · intro _ _ _ heq
        exact hspread _ heq

theorem AttributeReads.flag {name : Text} (hname : isReadableName name = true) :
    AttributeReads (symbolsOf name) (.flag name) := by
  intro rest hrest
  rw [readAttribute_word hname hrest.endsRun]
  obtain ⟨c, after, rfl, hc⟩ := hrest
  rcases hc with rfl | rfl | rfl <;> rfl

theorem AttributeReads.value {name : Text} {symbols : List Symbol} {item : Attribute}
    (hname : isReadableName name = true)
    (hvalue : ∀ rest, readValue name (symbols ++ rest) = some (item, rest)) :
    AttributeReads (symbolsOf (name ++ ['=']) ++ symbols) item := by
  intro rest hrest
  have hends : EndsRun isNameChar (.char '=' :: (symbols ++ rest)) := by
    intro c after heq
    cases heq
    decide
  have := readAttribute_word hname hends
  simpa [hvalue rest] using this

theorem AttributeReads.spread (hole : Hole) (expression : Expression) :
    AttributeReads (symbolsOf ['.', '.', '.'] ++ [.hole hole (some (.expression expression))])
      (.spread expression) := by
  intro rest hrest
  simp [readAttribute]

theorem readValue_quoted {quote : Char} {value : Text} (name : Text) (rest : List Symbol)
    (hquote : quote = '"' ∨ quote = '\'') (hvalue : quote ∉ value) :
    readValue name (symbolsOf (quote :: value ++ [quote]) ++ rest) =
      some (.string name value '"', rest) := by
  have hends : EndsRun (· != quote) (.char quote :: rest) := by
    intro c after heq
    cases heq
    simp
  have hchars : ∀ c ∈ value, (c != quote) = true := by
    intro c hc
    simp only [bne_iff_ne, ne_eq]
    rintro rfl
    exact hvalue hc
  have hrun := readRun_append hchars hends
  simp [readValue, hquote, hrun]

/-! ## Reading elements -/

/-- An element is read from these symbols, and whatever content follows it. -/
def ElementReads (symbols : List Symbol) (element : Element) : Prop :=
  ∀ rest content stop, Reads rest content stop →
    Reads (symbols ++ rest) (.element element :: content) stop

section Elements

variable {named given inner : List Symbol} {mark : Mark} {name : TagName}
  {attributes : List Attribute} {content : List Child}

theorem ElementReads.selfClosing (hname : NameReads named mark name)
    (hattributes : AttributesRead given attributes) :
    ElementReads (.char '<' :: named ++ given ++ [.char '/', .char '>'])
      ⟨name, attributes, [], false, {}⟩ := by
  intro rest content stop h
  have hends : EndsTag (.char '/' :: .char '>' :: rest) := ⟨'/', _, rfl, .inl rfl⟩
  have hshape : .char '<' :: named ++ given ++ [.char '/', .char '>'] ++ rest =
      .char '<' :: (named ++ (given ++ .char '/' :: .char '>' :: rest)) := by simp
  rw [hshape]
  refine Reads.element (hname.start _) (by simp; omega) ?_ h
  intro fuel hfuel
  cases fuel with
  | zero => simp at hfuel
  | succ fuel =>
      have hpos := hname.length_pos
      have hgiven := hattributes.result fuel _ hends (by simp at hfuel ⊢; omega)
      simp [readElement, hname.result _ (hattributes.endsWord _ hends), hgiven]

theorem ElementReads.closed (hname : NameReads named mark name)
    (hattributes : AttributesRead given attributes)
    (hinner : ∀ stop, Reads stop [] stop → Reads (inner ++ stop) content stop) :
    ElementReads (.char '<' :: named ++ given ++ [.char '>'] ++ inner ++
      [.char '<', .char '/'] ++ named ++ [.char '>']) ⟨name, attributes, content, false, {}⟩ := by
  intro rest others stop h
  -- What the content of the element stops at.
  let closing := .char '<' :: .char '/' :: (named ++ .char '>' :: rest)
  have hends : EndsTag (.char '>' :: (inner ++ closing)) := ⟨'>', _, rfl, .inr rfl⟩
  have hword : EndsWord (.char '>' :: rest) := ⟨'>', rest, rfl, .inr (.inr rfl)⟩
  have hclosing : readClosing mark closing = some rest := by
    simp [closing, readClosing, hname.result _ hword]
  have hcontent : Reads (inner ++ closing) content closing := hinner _ (Reads.closing _)
  have hshape : .char '<' :: named ++ given ++ [.char '>'] ++ inner ++
      [.char '<', .char '/'] ++ named ++ [.char '>'] ++ rest =
      .char '<' :: (named ++ (given ++ .char '>' :: (inner ++ closing))) := by simp [closing]
  rw [hshape]
  refine Reads.element (hname.start _) (by simp [closing]; omega) ?_ h
  intro fuel hfuel
  cases fuel with
  | zero => simp at hfuel
  | succ fuel =>
      have hpos := hname.length_pos
      have hgiven := hattributes.result fuel _ hends (by simp at hfuel ⊢; omega)
      have hread := hcontent.result fuel (by simp at hfuel ⊢; omega)
      simp [readElement, hname.result _ (hattributes.endsWord _ hends), hgiven, hread, hclosing]

end Elements

theorem readMarkup_of_reads {symbols : List Symbol} {content : List Child}
    (h : Reads symbols content []) : readMarkup symbols = some content := by
  simp [readMarkup, h.result (symbols.length + 1) (by omega)]

end TaggedMarkup
