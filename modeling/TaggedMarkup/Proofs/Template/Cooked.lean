import TaggedMarkup.Proofs.Element.Items
import TaggedMarkup.Proofs.Template.Escaping
import TaggedMarkup.Text.Lines

/-!
# Cooked quasis

What a tag function is given for a quasi: the quasi with its escape sequences
resolved and its line ends read as line feeds, as UTF-16 code units.  Escaping
and cooking give a text back except for its carriage returns, which a template
cannot hold as they are.  A value of an attribute that has one becomes a string
literal, but a text between tags does not, so literal text reaches the tag
function unchanged exactly if no such text has a carriage return.
-/

namespace TaggedMarkup

/-! ## Cooking -/

/-- The UTF-16 code units of a code point. -/
def codeUnits (code : Nat) : List Nat :=
  if code < 0x10000 then [code]
  else [0xD800 + (code - 0x10000) / 0x400, 0xDC00 + (code - 0x10000) % 0x400]

def units (text : Text) : List Nat :=
  text.flatMap fun c => codeUnits c.toNat

def isLineTerminator (c : Char) : Bool :=
  c == '\n' || c == '\r' || c == '\u2028' || c == '\u2029'

/-- What `u` and the text after it stand for behind a backslash, and how long they are. -/
def unicodeEscape? : Text → Option (List Nat × Nat)
  | '\x7b' :: rest =>
    let digits := rest.takeWhile Reference.isHexadecimal
    let code := Reference.number 16 digits
    if digits ≠ [] ∧ (rest.drop digits.length).head? = some '\x7d' ∧ code ≤ 0x10FFFF then
      some (codeUnits code, digits.length + 3)
    else none
  | rest =>
    let digits := rest.take 4
    if digits.length = 4 ∧ digits.all Reference.isHexadecimal then
      some ([Reference.number 16 digits], 5)
    else none

/-- What the characters after a backslash stand for, and how many of them belong to the escape
sequence; a line end stands for nothing. -/
def escapeValue? : Text → Option (List Nat × Nat)
  | [] => none
  | '\r' :: '\n' :: _ => some ([], 2)
  | 'b' :: _ => some ([0x8], 1)
  | 't' :: _ => some ([0x9], 1)
  | 'n' :: _ => some ([0xA], 1)
  | 'v' :: _ => some ([0xB], 1)
  | 'f' :: _ => some ([0xC], 1)
  | 'r' :: _ => some ([0xD], 1)
  | 'x' :: rest =>
    let digits := rest.take 2
    if digits.length = 2 ∧ digits.all Reference.isHexadecimal then
      some ([Reference.number 16 digits], 3)
    else none
  | 'u' :: rest => unicodeEscape? rest
  | c :: rest =>
    if isLineTerminator c then some ([], 1)
    else if c = '0' ∧ ¬ rest.head?.any Reference.isDecimal then some ([0], 1)
    else if Reference.isDecimal c then none
    else some (codeUnits c.toNat, 1)

/-- The cooked value of a quasi, none if an escape sequence in it stands for nothing. -/
def cook : Text → Option (List Nat)
  | [] => some []
  | '\\' :: rest =>
    match escapeValue? rest with
    | some (value, width) => (cook (rest.drop width)).map (value ++ ·)
    | none => none
  | '\r' :: '\n' :: rest => (cook rest).map (0xA :: ·)
  | '\r' :: rest => (cook rest).map (0xA :: ·)
  | c :: rest => (cook rest).map (codeUnits c.toNat ++ ·)
termination_by text => text.length

theorem cook_escaped {c : Char} (hc : c = '\\' ∨ c = '\x60' ∨ c = '$') (rest : Text) :
    cook ('\\' :: c :: rest) = (cook rest).map (codeUnits c.toNat ++ ·) := by
  have hvalue : escapeValue? (c :: rest) = some (codeUnits c.toNat, 1) := by
    rcases hc with rfl | rfl | rfl <;> rfl
  rw [cook, hvalue]
  rfl

theorem cook_return {rest : Text} (hrest : rest.head? ≠ some '\n') :
    cook ('\r' :: rest) = (cook rest).map (0xA :: ·) := by
  rw [cook]
  rintro after rfl
  simp at hrest

theorem cook_char {c : Char} (hbackslash : c ≠ '\\') (hreturn : c ≠ '\r') (rest : Text) :
    cook (c :: rest) = (cook rest).map (codeUnits c.toNat ++ ·) := by
  rw [cook]
  · exact hbackslash
  · intro after hc _
    exact hreturn hc
  · exact hreturn

/-! ## Escaping -/

theorem head?_escape {text : Text} (h : text.head? ≠ some '\n') :
    (escape text).head? ≠ some '\n' := by
  cases text with
  | nil => simp [escape]
  | cons c rest =>
      rw [escape_cons]
      split
      · simp
      · simpa using h

/-- An escaped text is cooked to the text, with its line ends read as line feeds. -/
theorem cook_escape (text : Text) : cook (escape text) = some (units (foldLineEnds text)) := by
  fun_induction foldLineEnds text with
  | case1 => simp [escape, cook, units]
  | case2 rest ih =>
      have hescape : escape ('\r' :: '\n' :: rest) = '\r' :: '\n' :: escape rest := by
        simp [escape_cons]
      rw [hescape, cook, ih]
      simp [units, codeUnits]
  | case3 rest hrest ih =>
      have hescape : escape ('\r' :: rest) = '\r' :: escape rest := by simp [escape_cons]
      have hhead : rest.head? ≠ some '\n' := by
        intro hhead
        obtain ⟨after, rfl⟩ := List.head?_eq_some_iff.mp hhead
        exact hrest after rfl
      rw [hescape, cook_return (head?_escape hhead), ih]
      simp [units, codeUnits]
  | case4 c rest hpair hreturn ih =>
      have hunits : units (c :: foldLineEnds rest) =
          codeUnits c.toNat ++ units (foldLineEnds rest) := by simp [units]
      rw [escape_cons, hunits]
      split
      case isTrue hspecial =>
        have hc : c = '\\' ∨ c = '\x60' ∨ c = '$' :=
          hspecial.imp_right fun h => h.imp_right And.left
        rw [cook_escaped hc, ih]
        rfl
      case isFalse hplain =>
        have hbackslash : c ≠ '\\' := fun hc => hplain (.inl hc)
        rw [cook_char hbackslash hreturn, ih]
        rfl

/-! ## Carriage returns -/

theorem mem_codeUnits {code : Nat} : 0xD ∈ codeUnits code ↔ code = 0xD := by
  unfold codeUnits
  split <;> simp <;> omega

theorem mem_units {text : Text} : 0xD ∈ units text ↔ '\r' ∈ text := by
  have hchar : ∀ c : Char, c.toNat = 0xD ↔ c = '\r' := by
    intro c
    rw [← Char.toNat_inj]
    rfl
  simp only [units, List.mem_flatMap, mem_codeUnits, hchar, exists_eq_right]

/-- A text is given back as it is exactly if it has no carriage return. -/
theorem cook_escape_eq_iff {text : Text} :
    cook (escape text) = some (units text) ↔ '\r' ∉ text := by
  rw [cook_escape, Option.some.injEq]
  constructor
  · intro heq hmem
    rw [← mem_units, ← heq, mem_units] at hmem
    exact carriageReturn_not_mem_foldLineEnds text hmem
  · intro h
    rw [foldLineEnds_of_not_mem h]

theorem exists_mem_textsOf {pending : Text} {segments : List Segment} {c : Char} :
    (∃ text ∈ textsOf pending segments, c ∈ text) ↔
      c ∈ pending ∨ ∃ text, .text text ∈ segments ∧ c ∈ text := by
  induction segments generalizing pending with
  | nil => simp [textsOf]
  | cons segment segments ih =>
      cases segment with
      | text text =>
          rw [textsOf, ih, List.mem_append]
          simp only [List.mem_cons, Segment.text.injEq]
          constructor
          · rintro ((h | h) | ⟨other, hother, h⟩)
            · exact .inl h
            · exact .inr ⟨text, .inl rfl, h⟩
            · exact .inr ⟨other, .inr hother, h⟩
          · rintro (h | ⟨other, rfl | hother, h⟩)
            · exact .inl (.inl h)
            · exact .inl (.inr h)
            · exact .inr ⟨other, hother, h⟩
      | hole hole =>
          simp only [textsOf, List.mem_cons, exists_eq_or_imp, ih, reduceCtorEq, false_or,
            List.not_mem_nil]

theorem encodeText_eq_plain {raw text : Text} :
    encodeText raw = .ok (.plain text) ↔ Reference.decode raw = .ok text ∧ '<' ∉ text := by
  cases hdecode : Reference.decode raw with
  | error error => simp [encodeText, hdecode, bind, Except.bind]
  | ok decoded =>
      by_cases hmarkup : '<' ∈ decoded
      · simp only [encodeText, hdecode, bind, Except.bind, pure, Except.pure, Except.ok.injEq,
          List.contains_iff_mem, hmarkup, if_true, reduceCtorEq, false_iff, not_and]
        rintro rfl
        exact not_not_intro hmarkup
      · simp only [encodeText, hdecode, bind, Except.bind, pure, Except.pure, Except.ok.injEq,
          List.contains_iff_mem, hmarkup, if_false, EncodedText.plain.injEq]
        constructor
        · rintro rfl
          exact ⟨rfl, hmarkup⟩
        · exact And.left

theorem return_not_mem_value {raw value : Text} {quote : Char}
    (h : encodeValue raw = .ok (.between quote value)) : '\r' ∉ quote :: value ++ [quote] := by
  cases hdecode : Reference.decode raw with
  | error error => simp [encodeValue, hdecode, bind, Except.bind] at h
  | ok decoded =>
      simp only [encodeValue, hdecode, bind, Except.bind, pure, Except.pure,
        Except.ok.injEq] at h
      split at h
      · simp at h
      · rename_i hplain
        simp only [EncodedValue.between.injEq] at h
        obtain ⟨rfl, rfl⟩ := h
        simp only [Bool.or_eq_true, List.contains_iff_mem, not_or] at hplain
        have hquote : '\r' ≠ if '"' ∈ decoded then '\'' else '"' := by
          split <;> decide
        simp [hquote, hplain.1.2]

/-- A text between tags that has a carriage return once its references are decoded, and is not
made a string literal. -/
def HoldsReturn (raw : Text) : Prop :=
  ∃ text, Reference.decode (collapse raw) = .ok text ∧ '\r' ∈ text ∧ '<' ∉ text

/-- If names have no carriage return, only a text between tags brings one into the template. -/
theorem exists_return_iff {settings : Settings} {items : List Item} {segments : List Segment}
    (hnames : ∀ name, .name name ∈ items → '\r' ∉ name)
    (haccounts : Accounts settings items segments) :
    (∃ text ∈ textsOf [] segments, '\r' ∈ text) ↔ ∃ raw, .text raw ∈ items ∧ HoldsReturn raw := by
  rw [exists_mem_textsOf]
  constructor
  · rintro (h | ⟨text, hmem, hreturn⟩)
    · simp at h
    · cases haccounts.origin _ hmem with
      | mark h => exact absurd (h _ hreturn) (by decide)
      | name h => exact absurd hreturn (hnames _ h)
      | label h =>
          refine absurd hreturn ?_
          simp [hnames _ h]
      | value h => exact absurd hreturn (return_not_mem_value h)
      | text h hencode =>
          obtain ⟨hdecode, hmarkup⟩ := encodeText_eq_plain.mp hencode
          exact ⟨_, h, _, hdecode, hreturn, hmarkup⟩
  · rintro ⟨raw, hmem, text, hdecode, hreturn, hmarkup⟩
    obtain ⟨encoded, hencode, hwritten⟩ := haccounts.written _ hmem
    rw [encodeText_eq_plain.mpr ⟨hdecode, hmarkup⟩, Except.ok.injEq] at hencode
    subst hencode
    rcases hwritten with hempty | hwritten
    · rw [EncodedText.plain.inj hempty] at hreturn
      simp at hreturn
    · exact .inr ⟨text, hwritten, hreturn⟩

/-- What the tag function is given for the quasi is the text that was collected for it. -/
def IsUnchanged (quasi : Text) : Prop :=
  ∃ text, quasi = escape text ∧ cook quasi = some (units text)

theorem isUnchanged_escape_iff {text : Text} : IsUnchanged (escape text) ↔ '\r' ∉ text := by
  constructor
  · rintro ⟨other, heq, hcook⟩
    have hsame := congrArg unescape heq
    rw [unescape_escape, unescape_escape] at hsame
    subst hsame
    exact cook_escape_eq_iff.mp hcook
  · intro h
    exact ⟨text, rfl, cook_escape_eq_iff.mpr h⟩

/-! ## A text between two tags -/

def closingTag (name : Text) : Text :=
  '<' :: '/' :: name ++ ['>']

/-- The text stands between an opening and a closing tag at the end of the template: in a hole, or
in the last quasi. -/
def Template.EndsWithText (template : Template) (name : Text) : EncodedText → Prop
  | .literal text => template.holes.getLast? = some (.literal text) ∧
      template.quasis.getLast? = some (escape (closingTag name))
  | .plain text => ∃ before, template.quasis.getLast? =
      some (escape (before ++ ['>']) ++ escape text ++ escape (closingTag name))

/-- What the tag function is given for a text: a string literal as it is, a quasi cooked. -/
def EncodedText.received : EncodedText → Option (List Nat)
  | .literal text => some (units text)
  | .plain text => cook (escape text)

theorem endsWithText_ofSegments (tag name : Text) (opening : List Segment)
    (encoded : EncodedText) :
    (Template.ofSegments tag (opening ++ [.text ['>'], encoded.segment, .text ['<', '/'],
      .text name, .text ['>']])).EndsWithText name encoded := by
  obtain ⟨finished, last, hcut⟩ := exists_textsOf_append [] opening
  rw [Template.ofSegments_eq, hcut]
  cases encoded with
  | literal text =>
      constructor
      · simp [holesOf_append, EncodedText.segment, holesOf]
      · simp [EncodedText.segment, textsOf, closingTag]
  | plain text =>
      refine ⟨last, ?_⟩
      have hclosing : escape (text ++ closingTag name) = escape text ++ escape (closingTag name) :=
        escape_append (.inr (by simp [closingTag]))
      have hopening : escape (last ++ ['>'] ++ (text ++ closingTag name)) =
          escape (last ++ ['>']) ++ escape (text ++ closingTag name) :=
        escape_append (.inl (by simp))
      rw [List.append_assoc, ← hclosing, ← hopening]
      simp [EncodedText.segment, textsOf, closingTag]

theorem compile_onlyText {settings : Settings} {name raw : Text} {attributes : List Attribute}
    {explicitClose : Bool} {position : Position} {template : Template}
    (h : compile settings
      (.element ⟨.static name, attributes, [.text raw], explicitClose, position⟩) = .ok template) :
    ∃ encoded, encodeText (collapse raw) = .ok encoded ∧
      (collapse raw = [] ∨ template.EndsWithText name encoded) := by
  rw [compile] at h
  obtain ⟨segments, hgives, rfl⟩ := Written.toTemplate_eq_ok.mp h
  obtain ⟨named, given, hnamed, hgiven, ⟨inner, hinner, rfl⟩ | ⟨hempty, rfl⟩⟩ :=
    writeElement_gives hgives
  · rw [writeName, Written.gives_text] at hnamed
    subst hnamed
    simp only [writeChildren, writeChild, Written.gives_append, Written.gives_empty] at hinner
    obtain ⟨inner, _, hinner, rfl, rfl⟩ := hinner
    obtain ⟨encoded, hencode, rfl⟩ : ∃ encoded, encodeText (collapse raw) = .ok encoded ∧
        inner = [encoded.segment] := by
      unfold writeText at hinner
      split at hinner
      · rename_i hencode
        exact ⟨_, hencode, Written.gives_text.mp hinner⟩
      · rename_i hencode
        simp only [Written.gives_hole, Except.ok.injEq, exists_eq_left'] at hinner
        exact ⟨_, hencode, hinner⟩
      · exact absurd hinner Written.not_gives_fail
    refine ⟨encoded, hencode, .inr ?_⟩
    have := endsWithText_ofSegments settings.tag name ([.text ['<']] ++ [.text name] ++ given)
      encoded
    simpa using this
  · have hblank : collapse raw = [] := by simpa [Child.hasContent] using hempty
    refine ⟨.plain [], ?_, .inl hblank⟩
    rw [hblank, encodeText_eq_plain, Reference.decode]
    simp

theorem exists_decode_of_encodeText {raw : Text} {encoded : EncodedText}
    (h : encodeText raw = .ok encoded) : ∃ text, Reference.decode raw = .ok text := by
  cases hdecode : Reference.decode raw with
  | error error => simp [encodeText, hdecode, bind, Except.bind] at h
  | ok text => exact ⟨text, rfl⟩

theorem received_eq_iff {raw text : Text} {encoded : EncodedText}
    (hencode : encodeText raw = .ok encoded) (hdecode : Reference.decode raw = .ok text) :
    encoded.received = some (units text) ↔ ('\r' ∈ text → '<' ∈ text) := by
  simp only [encodeText, hdecode, bind, Except.bind, pure, Except.pure, Except.ok.injEq,
    List.contains_iff_mem] at hencode
  subst hencode
  split
  case isTrue hmarkup => simp [EncodedText.received, hmarkup]
  case isFalse hmarkup =>
    rw [EncodedText.received, cook_escape_eq_iff]
    simp [hmarkup]

/-! ## Compiled templates -/

theorem quasis_of_compile {settings : Settings} {tree : Tree} {template : Template}
    (h : compile settings tree = .ok template) :
    ∃ segments, Accounts settings tree.items segments ∧
      template.quasis = (textsOf [] segments).map escape := by
  obtain ⟨segments, rfl, haccounts⟩ := accounts_of_compile h
  exact ⟨segments, haccounts, by rw [Template.ofSegments_eq]⟩

/-- One template is given unchanged exactly if no text of its own tree has a carriage return. -/
theorem own_quasis_unchanged_iff {settings : Settings} {tree : Tree} {template : Template}
    (hnames : ∀ name, .name name ∈ tree.items → '\r' ∉ name)
    (h : compile settings tree = .ok template) :
    (∀ quasi ∈ template.quasis, IsUnchanged quasi) ↔
      ∀ raw, .text raw ∈ tree.items → ¬ HoldsReturn raw := by
  obtain ⟨segments, haccounts, hquasis⟩ := quasis_of_compile h
  have hreturn := exists_return_iff hnames haccounts
  simp only [hquasis, List.forall_mem_map, isUnchanged_escape_iff]
  constructor
  · intro htexts raw hmem hraw
    obtain ⟨text, htext, hin⟩ := hreturn.mpr ⟨raw, hmem, hraw⟩
    exact htexts text htext hin
  · intro hraws text htext hin
    obtain ⟨raw, hmem, hraw⟩ := hreturn.mp ⟨text, htext, hin⟩
    exact hraws raw hmem hraw

/-- The tag function is given each quasi of a compiled template, at any depth, as the text that was
collected for it, except that its line ends become line feeds.  So all literal text is unchanged
exactly if no text between tags holds a carriage return, and the only text of an element is
unchanged exactly if it holds none. -/
theorem quasis_unchanged_iff (settings : Settings) (tree : Tree) (template : Template)
    (hnames : ∀ inner : Tree, inner.Inside tree → ∀ name, .name name ∈ inner.items → '\r' ∉ name)
    (hcompile : compile settings tree = .ok template) :
    (∀ inner : Template, inner.Inside template → ∀ quasi ∈ inner.quasis,
      ∃ text, quasi = escape text ∧ cook quasi = some (units (foldLineEnds text))) ∧
    ((∀ inner : Template, inner.Inside template → ∀ quasi ∈ inner.quasis, IsUnchanged quasi) ↔
      ∀ inner : Tree, inner.Inside tree → ∀ raw, .text raw ∈ inner.items → ¬ HoldsReturn raw) ∧
    (∀ name attributes raw explicitClose position,
      tree = .element ⟨.static name, attributes, [.text raw], explicitClose, position⟩ →
      ∃ text encoded, Reference.decode (collapse raw) = .ok text ∧
        encodeText (collapse raw) = .ok encoded ∧
        (collapse raw = [] ∨ template.EndsWithText name encoded) ∧
        (encoded.received = some (units text) ↔ ¬ HoldsReturn raw)) := by
  refine ⟨?_, ?_, ?_⟩
  · intro inner hinside quasi hmem
    obtain ⟨source, -, hsource⟩ := (inside_compile_iff hcompile).mp hinside
    obtain ⟨segments, -, hquasis⟩ := quasis_of_compile hsource
    rw [hquasis] at hmem
    obtain ⟨text, -, rfl⟩ := List.mem_map.mp hmem
    exact ⟨text, rfl, cook_escape text⟩
  · constructor
    · intro hunchanged inner hinside
      obtain ⟨compiled, hcompiled⟩ := compile_of_inside hcompile hinside
      exact (own_quasis_unchanged_iff (hnames inner hinside) hcompiled).mp
        (hunchanged compiled ((inside_compile_iff hcompile).mpr ⟨inner, hinside, hcompiled⟩))
    · intro hraws inner hinside
      obtain ⟨source, hsource, hinner⟩ := (inside_compile_iff hcompile).mp hinside
      exact (own_quasis_unchanged_iff (hnames source hsource) hinner).mpr (hraws source hsource)
  · rintro name attributes raw explicitClose position rfl
    obtain ⟨encoded, hencode, hends⟩ := compile_onlyText hcompile
    obtain ⟨text, hdecode⟩ := exists_decode_of_encodeText hencode
    refine ⟨text, encoded, hdecode, hencode, hends, ?_⟩
    rw [received_eq_iff hencode hdecode, HoldsReturn]
    simp [hdecode]

/-- Text that is made a string literal although it has a carriage return. -/
def literalReturn : Tree :=
  .element {
    name := .static ['b']
    children := [.text ['&', 'l', 't', ';', '&', '#', '1', '3', ';']] }

/-- An element whose expression holds such a text. -/
def aroundReturn : Tree :=
  .element {
    name := .static ['p']
    children := [.text ['a'], .expression ⟨[.code ['f', '='], .tree literalReturn], {}⟩] }

theorem inside_aroundReturn {inner : Tree} (h : inner.Inside aroundReturn) :
    inner = aroundReturn ∨ inner = literalReturn := by
  cases h with
  | self => exact .inl rfl
  | nested hitem hpart h =>
      simp only [aroundReturn, Tree.items, Element.items, TagName.items, itemsOfChildren,
        Child.items, List.flatMap_nil, List.append_nil, List.cons_append, List.nil_append,
        List.mem_cons, reduceCtorEq, Item.expression.injEq, List.not_mem_nil, or_false,
        false_or] at hitem
      subst hitem
      simp only [List.mem_cons, reduceCtorEq, Part.tree.injEq, List.not_mem_nil, or_false,
        false_or] at hpart
      subst hpart
      cases h with
      | self => exact .inr rfl
      | nested hitem _ _ =>
          simp [literalReturn, Tree.items, Element.items, TagName.items, itemsOfChildren,
            Child.items] at hitem

theorem aroundReturn_unchanged :
    ∃ template, compile {} aroundReturn = .ok template ∧
      ∀ inner : Template, inner.Inside template → ∀ quasi ∈ inner.quasis, IsUnchanged quasi := by
  obtain ⟨template, hcompile⟩ : ∃ template, compile {} aroundReturn = .ok template :=
    ⟨_, by with_unfolding_all rfl⟩
  have houter : aroundReturn.items = [.name ['p'], .text ['a'],
      .expression ⟨[.code ['f', '='], .tree literalReturn], {}⟩] := by
    simp [aroundReturn, Tree.items, Element.items, TagName.items, itemsOfChildren, Child.items]
  have hinner : literalReturn.items = [.name ['b'],
      .text ['&', 'l', 't', ';', '&', '#', '1', '3', ';']] := by
    simp [literalReturn, Tree.items, Element.items, TagName.items, itemsOfChildren, Child.items]
  refine ⟨template, hcompile,
    (quasis_unchanged_iff {} aroundReturn template ?_ hcompile).2.1.mpr ?_⟩
  · intro inner hinside name hname
    rcases inside_aroundReturn hinside with rfl | rfl
    · simp only [houter, List.mem_cons, Item.name.injEq, reduceCtorEq, List.not_mem_nil,
        or_false] at hname
      subst hname
      decide
    · simp only [hinner, List.mem_cons, Item.name.injEq, reduceCtorEq, List.not_mem_nil,
        or_false] at hname
      subst hname
      decide
  · rintro inner hinside raw hraw ⟨text, hdecode, hreturn, hmarkup⟩
    rcases inside_aroundReturn hinside with rfl | rfl
    · simp only [houter, List.mem_cons, Item.text.injEq, reduceCtorEq, List.not_mem_nil,
        or_false, false_or] at hraw
      subst hraw
      have hplain : Reference.decode (collapse ['a']) = .ok ['a'] := by with_unfolding_all rfl
      rw [hplain, Except.ok.injEq] at hdecode
      subst hdecode
      exact absurd hreturn (by decide)
    · simp only [hinner, List.mem_cons, Item.text.injEq, reduceCtorEq, List.not_mem_nil,
        or_false, false_or] at hraw
      subst hraw
      have hliteral : Reference.decode
          (collapse ['&', 'l', 't', ';', '&', '#', '1', '3', ';']) = .ok ['<', '\r'] := by
        with_unfolding_all rfl
      rw [hliteral, Except.ok.injEq] at hdecode
      subst hdecode
      exact absurd List.mem_cons_self hmarkup

/-- A reference to a carriage return becomes a carriage return in a quasi. -/
def plainReturn : Tree :=
  .element {
    name := .static ['p']
    children := [.text ['a', '&', '#', '1', '3', ';', 'b']] }

theorem plainReturn_changed :
    ∃ quasi, compile {} plainReturn = .ok ⟨['h', 't', 'm', 'l'], [quasi], []⟩ ∧
      quasi = escape ['<', 'p', '>', 'a', '\r', 'b', '<', '/', 'p', '>'] ∧
      cook quasi = some (units ['<', 'p', '>', 'a', '\n', 'b', '<', '/', 'p', '>']) ∧
      ¬ IsUnchanged quasi := by
  refine ⟨escape ['<', 'p', '>', 'a', '\r', 'b', '<', '/', 'p', '>'],
    by with_unfolding_all rfl, rfl, ?_, ?_⟩
  · rw [cook_escape]
    rfl
  · rw [isUnchanged_escape_iff]
    decide

end TaggedMarkup
