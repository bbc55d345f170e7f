import Mathlib.Logic.Function.Basic
import TaggedMarkup.Proofs.Template.Quasis

/-!
# Escaped text in a quasi

An escaped text is read character by character: a backslash goes with the
character after it, and no other character ends a quasi.  So whatever ends the
quasi after it, a quasi is scanned up to the end of the escaped text and no
further, and the text is got back from it.  The backslashes are those that
three replacements put there, one after the other over the whole text; none of
the three touches what the ones before it have put there.  Two texts may be
escaped one by one or together, unless a dollar sign at the end of the first
meets a brace at the start of the second.
-/

namespace TaggedMarkup

/-! ## The characters of an escaped text -/

theorem escape_cons (c : Char) (rest : Text) :
    escape (c :: rest) =
      if c = '\\' ∨ c = '\x60' ∨ (c = '$' ∧ rest.head? = some '\x7b') then
        '\\' :: c :: escape rest
      else c :: escape rest := by
  by_cases hbackslash : c = '\\'
  · subst hbackslash
    simp [escape]
  · by_cases hbacktick : c = '\x60'
    · subst hbacktick
      simp [escape]
    · by_cases hopening : c = '$' ∧ rest.head? = some '\x7b'
      · obtain ⟨rfl, hhead⟩ := hopening
        obtain ⟨after, rfl⟩ := List.head?_eq_some_iff.mp hhead
        simp [escape]
      · rw [if_neg (by simp [hbackslash, hbacktick, hopening]), escape]
        · exact hbackslash
        · exact hbacktick
        · rintro after hc rfl
          exact hopening ⟨hc, rfl⟩

theorem head?_escape_append {text tail : Text} (htext : text.head? ≠ some '\x7b')
    (htail : tail.head? ≠ some '\x7b') :
    (escape text ++ tail).head? ≠ some '\x7b' := by
  cases text with
  | nil => simpa [escape] using htail
  | cons c rest =>
      rw [escape_cons]
      split
      · simp
      · simpa using htext

/-- An escaped text before a tail, from its end to its start: pairs of a backslash and a character,
and characters that stand for themselves. -/
theorem escape_induction {motive : Text → Text → Prop} {tail : Text}
    (htail : tail.head? ≠ some '\x7b') (nil : motive [] tail)
    (pair : ∀ c taken text, motive taken text → motive ('\\' :: c :: taken) ('\\' :: c :: text))
    (char : ∀ c taken text, c ≠ '\\' → c ≠ '\x60' → (c = '$' → text.head? ≠ some '\x7b') →
      motive taken text → motive (c :: taken) (c :: text))
    (text : Text) : motive (escape text) (escape text ++ tail) := by
  induction text with
  | nil => exact nil
  | cons c rest ih =>
      rw [escape_cons]
      split
      case isTrue => exact pair c _ _ ih
      case isFalse hplain =>
        simp only [not_or, not_and] at hplain
        obtain ⟨hbackslash, hbacktick, hopening⟩ := hplain
        refine char c _ _ hbackslash hbacktick ?_ ih
        intro hc
        exact head?_escape_append (hopening hc) htail

/-! ## Scanning a quasi -/

/-- What a quasi takes off a text, and what is left: a backtick, or a dollar sign before a brace,
ends the quasi, unless a backslash has taken it. -/
def scanQuasi : Text → Option (Text × Text)
  | [] => none
  | '\\' :: c :: rest => (scanQuasi rest).map fun (taken, after) => ('\\' :: c :: taken, after)
  | '\x60' :: rest => some ([], '\x60' :: rest)
  | '$' :: '\x7b' :: rest => some ([], '$' :: '\x7b' :: rest)
  | c :: rest => (scanQuasi rest).map fun (taken, after) => (c :: taken, after)

def EndsQuasi (text : Text) : Prop :=
  ['\x60'] <+: text ∨ ['$', '\x7b'] <+: text

theorem EndsQuasi.scanQuasi_eq {text : Text} (h : EndsQuasi text) :
    scanQuasi text = some ([], text) := by
  rcases h with ⟨rest, rfl⟩ | ⟨rest, rfl⟩
  · simp [scanQuasi]
  · simp [scanQuasi]

theorem EndsQuasi.head?_ne {text : Text} (h : EndsQuasi text) : text.head? ≠ some '\x7b' := by
  rcases h with ⟨rest, rfl⟩ | ⟨rest, rfl⟩
  · simp
  · simp

theorem scanQuasi_pair (c : Char) (rest : Text) :
    scanQuasi ('\\' :: c :: rest) =
      (scanQuasi rest).map fun (taken, after) => ('\\' :: c :: taken, after) := by
  simp [scanQuasi]

theorem scanQuasi_char {c : Char} {rest : Text} (hbackslash : c ≠ '\\') (hbacktick : c ≠ '\x60')
    (hopening : c = '$' → rest.head? ≠ some '\x7b') :
    scanQuasi (c :: rest) = (scanQuasi rest).map fun (taken, after) => (c :: taken, after) := by
  rw [scanQuasi]
  · intro _ _ hc _
    exact hbackslash hc
  · exact hbacktick
  · rintro after hc rfl
    exact hopening hc rfl

theorem scanQuasi_escape_append (text : Text) {tail : Text} (htail : EndsQuasi tail) :
    scanQuasi (escape text ++ tail) = some (escape text, tail) := by
  apply escape_induction (motive := fun taken text => scanQuasi text = some (taken, tail))
    htail.head?_ne htail.scanQuasi_eq
  · intro c taken text ih
    rw [scanQuasi_pair, ih]
    rfl
  · intro c taken text hbackslash hbacktick hopening ih
    rw [scanQuasi_char hbackslash hbacktick hopening, ih]
    rfl

/-! ## Three replacements -/

/-- The text with a pattern replaced, from left to right, after some characters that belong to
an occurrence already replaced.  The pattern is not empty: `first` is its first character. -/
def replaceAfter (first : Char) (others replacement : Text) : Nat → Text → Text
  | _, [] => []
  | skipped + 1, _ :: rest => replaceAfter first others replacement skipped rest
  | 0, c :: rest =>
    if (first :: others) <+: (c :: rest) then
      replacement ++ replaceAfter first others replacement others.length rest
    else c :: replaceAfter first others replacement 0 rest

def replaceAll (first : Char) (others replacement text : Text) : Text :=
  replaceAfter first others replacement 0 text

section Replacing

variable {first : Char} {others replacement : Text}

theorem replaceAfter_length (taken rest : Text) :
    replaceAfter first others replacement taken.length (taken ++ rest) =
      replaceAll first others replacement rest := by
  induction taken with
  | nil => rfl
  | cons c taken ih => exact ih

theorem replaceAll_append (rest : Text) :
    replaceAll first others replacement (first :: others ++ rest) =
      replacement ++ replaceAll first others replacement rest := by
  have hbegins : (first :: others) <+: (first :: (others ++ rest)) :=
    List.prefix_append (first :: others) rest
  rw [replaceAll, List.cons_append, replaceAfter, if_pos hbegins, replaceAfter_length]

theorem replaceAll_cons {c : Char} {rest : Text} (h : ¬ (first :: others) <+: (c :: rest)) :
    replaceAll first others replacement (c :: rest) =
      c :: replaceAll first others replacement rest := by
  rw [replaceAll, replaceAfter, if_neg h]
  rfl

theorem replaceAll_of_ne {c : Char} (rest : Text) (h : c ≠ first) :
    replaceAll first others replacement (c :: rest) =
      c :: replaceAll first others replacement rest := by
  apply replaceAll_cons
  rw [List.cons_prefix_cons]
  exact fun hbegins => h hbegins.1.symm

end Replacing

/-- The text with its backslashes doubled, and then a backslash put before its backticks. -/
def markSingles (text : Text) : Text :=
  replaceAll '\x60' [] ['\\', '\x60'] (replaceAll '\\' [] ['\\', '\\'] text)

theorem markSingles_backslash (rest : Text) :
    markSingles ('\\' :: rest) = '\\' :: '\\' :: markSingles rest := by
  have hdoubled : replaceAll '\\' [] ['\\', '\\'] ('\\' :: rest) =
      '\\' :: '\\' :: replaceAll '\\' [] ['\\', '\\'] rest :=
    replaceAll_append rest
  rw [markSingles, hdoubled, replaceAll_of_ne _ (by decide), replaceAll_of_ne _ (by decide),
    markSingles]

theorem markSingles_backtick (rest : Text) :
    markSingles ('\x60' :: rest) = '\\' :: '\x60' :: markSingles rest := by
  rw [markSingles, replaceAll_of_ne _ (by decide)]
  exact replaceAll_append _

theorem markSingles_of_ne {c : Char} (rest : Text) (hbackslash : c ≠ '\\')
    (hbacktick : c ≠ '\x60') : markSingles (c :: rest) = c :: markSingles rest := by
  rw [markSingles, replaceAll_of_ne _ hbackslash, replaceAll_of_ne _ hbacktick, markSingles]

theorem head?_of_head?_markSingles {text : Text}
    (h : (markSingles text).head? = some '\x7b') : text.head? = some '\x7b' := by
  cases text with
  | nil => exact h
  | cons c rest =>
      by_cases hbackslash : c = '\\'
      · subst hbackslash
        simp [markSingles_backslash] at h
      · by_cases hbacktick : c = '\x60'
        · subst hbacktick
          simp [markSingles_backtick] at h
        · simpa [markSingles_of_ne rest hbackslash hbacktick] using h

theorem escape_eq_replacements (text : Text) :
    escape text = replaceAll '$' ['\x7b'] ['\\', '$', '\x7b'] (markSingles text) := by
  fun_induction escape text with
  | case1 => rfl
  | case2 rest ih =>
      rw [markSingles_backslash, replaceAll_of_ne _ (by decide), replaceAll_of_ne _ (by decide), ih]
  | case3 rest ih =>
      rw [markSingles_backtick, replaceAll_of_ne _ (by decide), replaceAll_of_ne _ (by decide), ih]
  | case4 rest ih =>
      rw [markSingles_of_ne _ (by decide) (by decide), markSingles_of_ne _ (by decide) (by decide),
        ih]
      symm
      exact replaceAll_append (markSingles rest)
  | case5 c rest hbackslash hbacktick hopening ih =>
      rw [markSingles_of_ne rest hbackslash hbacktick, ih, replaceAll_cons]
      rw [List.cons_prefix_cons]
      rintro ⟨hc, after, hbegins⟩
      -- a brace that follows in the marked text follows in the text itself
      have hhead : rest.head? = some '\x7b' := head?_of_head?_markSingles (by simp [← hbegins])
      obtain ⟨later, rfl⟩ := List.head?_eq_some_iff.mp hhead
      exact hopening later hc.symm rfl

/-! ## Escaping is undone -/

/-- A quasi is scanned to the end of an escaped text, whatever ends it there, and the pairs in what
was scanned stand for the text; so no two texts are escaped alike.  The escaped text is what three
replacements make of the whole text, one after the other. -/
theorem escaped_quasi_scans_back :
    (∀ text continuation, EndsQuasi continuation →
      ∃ taken, scanQuasi (escape text ++ continuation) = some (taken, continuation) ∧
        taken = escape text ∧ unescape taken = text) ∧
    Function.Injective escape ∧
    ∀ text, escape text =
      replaceAll '$' ['\x7b'] ['\\', '$', '\x7b']
        (replaceAll '\x60' [] ['\\', '\x60'] (replaceAll '\\' [] ['\\', '\\'] text)) := by
  refine ⟨?_, ?_, escape_eq_replacements⟩
  · intro text continuation hends
    exact ⟨escape text, scanQuasi_escape_append text hends, rfl, unescape_escape text⟩
  · exact Function.LeftInverse.injective unescape_escape

/-- A backslash before a backtick, what opens a hole, and a dollar sign right before a hole. -/
theorem dollar_before_hole_scans_back :
    scanQuasi (escape ['\\', '\x60', '$', '\x7b', '$'] ++ ['$', '\x7b', 'x', '\x7d', '\x60']) =
      some (['\\', '\\', '\\', '\x60', '\\', '$', '\x7b', '$'],
        ['$', '\x7b', 'x', '\x7d', '\x60']) ∧
    unescape ['\\', '\\', '\\', '\x60', '\\', '$', '\x7b', '$'] =
      ['\\', '\x60', '$', '\x7b', '$'] := by
  have hends : EndsQuasi ['$', '\x7b', 'x', '\x7d', '\x60'] := .inr ⟨_, rfl⟩
  obtain ⟨taken, hscan, rfl, htext⟩ :=
    escaped_quasi_scans_back.1 ['\\', '\x60', '$', '\x7b', '$'] _ hends
  exact ⟨hscan, htext⟩

/-! ## Texts put together -/

/-- The two texts open a hole together: the first ends in the dollar sign, the second begins with
the brace. -/
def OpensAcross (first second : Text) : Prop :=
  first.getLast? = some '$' ∧ second.head? = some '\x7b'

theorem escape_append {first second : Text}
    (h : first.getLast? ≠ some '$' ∨ second.head? ≠ some '\x7b') :
    escape (first ++ second) = escape first ++ escape second := by
  induction first with
  | nil => rfl
  | cons c first ih =>
      -- a dollar sign is the only character whose writing depends on what comes after it
      have hhead : c = '$' → ((first ++ second).head? = some '\x7b' ↔
          first.head? = some '\x7b') := by
        rintro rfl
        cases first with
        | nil => simpa using h
        | cons d first => rfl
      have hlast : first.getLast? ≠ some '$' ∨ second.head? ≠ some '\x7b' := by
        cases first with
        | nil => exact .inl (by simp)
        | cons d first => simpa using h
      rw [List.cons_append, escape_cons, escape_cons, ih hlast]
      by_cases hc : c = '$'
      · simp only [hhead hc]
        split <;> rfl
      · simp only [hc, false_and, or_false]
        split <;> rfl

theorem escape_concat_dollar (text : Text) : escape (text ++ ['$']) = escape text ++ ['$'] :=
  escape_append (.inr (by simp))

theorem escape_opening (before after : Text) :
    escape (before ++ '$' :: '\x7b' :: after) =
      escape before ++ '\\' :: '$' :: escape ('\x7b' :: after) := by
  have hopening : escape ('$' :: '\x7b' :: after) = '\\' :: '$' :: escape ('\x7b' :: after) := by
    simp [escape]
  rw [escape_append (.inr (by simp)), hopening]

/-- Put together, the texts get a backslash that neither of them gets alone. -/
theorem OpensAcross.escape_eq {first second : Text} (h : OpensAcross first second) :
    ∃ before, first = before ++ ['$'] ∧
      escape first ++ escape second = escape before ++ '$' :: escape second ∧
      escape (first ++ second) = escape before ++ '\\' :: '$' :: escape second := by
  obtain ⟨hlast, hhead⟩ := h
  obtain ⟨before, rfl⟩ := List.getLast?_eq_some_iff.mp hlast
  obtain ⟨after, rfl⟩ := List.head?_eq_some_iff.mp hhead
  refine ⟨before, rfl, ?_, ?_⟩
  · rw [escape_concat_dollar, List.append_assoc, List.singleton_append]
  · rw [List.append_assoc, List.singleton_append, escape_opening]

theorem OpensAcross.count_escape {first second : Text} (h : OpensAcross first second) :
    (escape (first ++ second)).count '\\' = (escape first ++ escape second).count '\\' + 1 := by
  obtain ⟨before, -, hparts, hwhole⟩ := h.escape_eq
  rw [hparts, hwhole]
  simp [List.count_append, Nat.add_assoc]

/-- Escaping goes through a concatenation exactly if no hole opens across it.  If one does, the
whole has one backslash more than the parts: the one right before the dollar sign that ends the
first text. -/
theorem escape_append_eq_iff (first second : Text) :
    (escape (first ++ second) = escape first ++ escape second ↔ ¬ OpensAcross first second) ∧
    (OpensAcross first second → ∃ before, first = before ++ ['$'] ∧
      escape first ++ escape second = escape before ++ '$' :: escape second ∧
      escape (first ++ second) = escape before ++ '\\' :: '$' :: escape second ∧
      (escape (first ++ second)).count '\\' = (escape first ++ escape second).count '\\' + 1) := by
  refine ⟨⟨?_, ?_⟩, ?_⟩
  · intro hsame hopens
    have hcount := hopens.count_escape
    rw [hsame] at hcount
    omega
  · intro hopens
    exact escape_append (not_and_or.mp hopens)
  · intro hopens
    obtain ⟨before, hfirst, hparts, hwhole⟩ := hopens.escape_eq
    exact ⟨before, hfirst, hparts, hwhole, hopens.count_escape⟩

/-- The second of two dollar signs meets the brace; the backslash and the backtick are escaped
either way. -/
theorem second_dollar_opens_across :
    OpensAcross ['\\', '$', '$'] ['\x7b', '\x60'] ∧
    escape ['\\', '$', '$'] ++ escape ['\x7b', '\x60'] =
      ['\\', '\\', '$', '$', '\x7b', '\\', '\x60'] ∧
    escape (['\\', '$', '$'] ++ ['\x7b', '\x60']) =
      ['\\', '\\', '$', '\\', '$', '\x7b', '\\', '\x60'] := by
  have hopens : OpensAcross ['\\', '$', '$'] ['\x7b', '\x60'] := ⟨rfl, rfl⟩
  obtain ⟨before, hfirst, hparts, hwhole, -⟩ := (escape_append_eq_iff _ _).2 hopens
  have hsame : ['\\', '$'] ++ ['$'] = before ++ ['$'] := hfirst
  obtain rfl := List.append_cancel_right hsame
  exact ⟨hopens, hparts, hwhole⟩

end TaggedMarkup
