import Mathlib.Tactic.SplitIfs
import TaggedMarkup.Reference.Basic
import TaggedMarkup.Template.Print
import TaggedMarkup.Text.Blank

/-!
# Reading string literals

How a program reads a string literal between double quotes.  A backslash begins
an escape, a double quote without one ends the literal, and a line break may not
stand in it.  A text that was written as a literal is read back as it was,
whatever comes after the literal.
-/

namespace TaggedMarkup

/-- What a character after a backslash stands for. -/
def escaped? : Char → Option Char
  | '"' => some '"'
  | '\\' => some '\\'
  | 'n' => some '\n'
  | 'r' => some '\r'
  | 't' => some '\t'
  | 'b' => some '\x08'
  | 'f' => some '\x0c'
  | _ => none

/-- What four digits after `\u` stand for; there is no character for a surrogate. -/
def escapedCode? (digits : Text) : Option Text :=
  if digits.all Reference.isHexadecimal then
    Reference.character? (Reference.number 16 digits)
  else none

/-- Reads a literal from behind its first quote, and gives its text and what comes after it. -/
def readLiteralRest : Text → Option (Text × Text)
  | [] => none
  | '"' :: rest => some ([], rest)
  | '\\' :: 'u' :: a :: b :: c :: d :: rest => do
    let value ← escapedCode? [a, b, c, d]
    (readLiteralRest rest).map (Prod.map (value ++ ·) id)
  | '\\' :: c :: rest => do
    let value ← escaped? c
    (readLiteralRest rest).map (Prod.map (value :: ·) id)
  | c :: rest =>
    if c = '\\' ∨ isLineBreak c = true then none
    else (readLiteralRest rest).map (Prod.map (c :: ·) id)

/-- Reads the literal that a text begins with. -/
def readLiteral? : Text → Option (Text × Text)
  | '"' :: rest => readLiteralRest rest
  | _ => none

/-! ## Characters of a literal -/

theorem readLiteralRest_escape {c value : Char} (h : escaped? c = some value) (rest : Text) :
    readLiteralRest ('\\' :: c :: rest) =
      (readLiteralRest rest).map (Prod.map (value :: ·) id) := by
  rw [readLiteralRest, h]
  · rfl
  · rintro _ _ _ _ _ rfl
    cases h

theorem hexadecimal_four : ∀ code < 0x20, Quoted.hexadecimal 4 code =
    ['0', '0', (code / 16).digitChar, (code % 16).digitChar] := by
  decide

theorem escapedCode?_four : ∀ code < 0x20,
    escapedCode? ['0', '0', (code / 16).digitChar, (code % 16).digitChar] =
      some [Char.ofNat code] := by
  decide

theorem readLiteralRest_code {c : Char} (h : c.toNat < 0x20) (rest : Text) :
    readLiteralRest ('\\' :: 'u' :: Quoted.hexadecimal 4 c.toNat ++ rest) =
      (readLiteralRest rest).map (Prod.map (c :: ·) id) := by
  have hcode := escapedCode?_four c.toNat h
  rw [Char.ofNat_toNat] at hcode
  rw [hexadecimal_four c.toNat h]
  change (escapedCode? _ >>= _) = _
  rw [hcode]
  rfl

theorem readLiteralRest_plain {c : Char} (hquote : c ≠ '"') (hbackslash : c ≠ '\\')
    (hbreak : isLineBreak c = false) (rest : Text) :
    readLiteralRest (c :: rest) = (readLiteralRest rest).map (Prod.map (c :: ·) id) := by
  rw [readLiteralRest, if_neg (by simp [hbackslash, hbreak])]
  · exact hquote
  · exact fun _ _ _ _ _ heq _ => hbackslash heq
  · exact fun _ _ heq _ => hbackslash heq

/-- However a literal writes a character, it is read as this character. -/
theorem readLiteralRest_literalChar (c : Char) (rest : Text) :
    readLiteralRest (literalChar c ++ rest) =
      (readLiteralRest rest).map (Prod.map (c :: ·) id) := by
  unfold literalChar
  split_ifs with hquote hbackslash hfeed hreturn htab hback hform hcontrol
  · rw [hquote]
    exact readLiteralRest_escape rfl rest
  · rw [hbackslash]
    exact readLiteralRest_escape rfl rest
  · rw [hfeed]
    exact readLiteralRest_escape rfl rest
  · rw [hreturn]
    exact readLiteralRest_escape rfl rest
  · rw [htab]
    exact readLiteralRest_escape rfl rest
  · rw [hback]
    exact readLiteralRest_escape rfl rest
  · rw [hform]
    exact readLiteralRest_escape rfl rest
  · exact readLiteralRest_code hcontrol rest
  · have hbreak : isLineBreak c = false := by simp [isLineBreak, hfeed, hreturn]
    exact readLiteralRest_plain hquote hbackslash hbreak rest

/-! ## Whole literals -/

theorem readLiteralRest_flatMap (text rest : Text) :
    readLiteralRest (text.flatMap literalChar ++ '"' :: rest) = some (text, rest) := by
  induction text with
  | nil => rfl
  | cons c text ih =>
      rw [List.flatMap_cons, List.append_assoc, readLiteralRest_literalChar, ih]
      rfl

theorem readLiteral?_stringLiteral (text rest : Text) :
    readLiteral? (stringLiteral text ++ rest) = some (text, rest) := by
  rw [stringLiteral, List.cons_append, List.cons_append, List.append_assoc,
    List.singleton_append, readLiteral?, readLiteralRest_flatMap]

/-- A hole that holds a string literal is printed, and reading what is printed gives the string back
and stops where the literal ends. -/
theorem printed_literal_reads_back (text following : Text) :
    ∃ printed, (Hole.literal text).print? = some printed ∧
      readLiteral? (printed ++ following) = some (text, following) :=
  ⟨stringLiteral text, rfl, readLiteral?_stringLiteral text following⟩

/-- Text that looks like an escape, and a control character before what looks like its code. -/
example : readLiteral? (stringLiteral ['\\', 'n', '\x01', '1', '"'] ++ ['"']) =
    some (['\\', 'n', '\x01', '1', '"'], ['"']) := by
  decide

end TaggedMarkup
