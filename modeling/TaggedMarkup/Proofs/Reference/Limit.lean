import TaggedMarkup.Proofs.Reference.Decoding

/-!
# References that cannot be decoded

A decimal reference with too many digits is the one thing that decoding fails
at, wherever it stands in a text.  All other references are either replaced by
what they stand for or left as they are written.
-/

namespace TaggedMarkup.Reference

theorem exists_error_of_isLong {reference : Reference} (h : reference.IsLong) :
    ∃ error, reference.value? = .error error := by
  cases reference with
  | decimal digits => exact ⟨⟨digits.length⟩, if_pos h⟩
  | named name => cases h
  | hexadecimal mark digits => cases h

theorem exists_error_around {reference : Reference} (hformed : reference.IsFormed)
    (hlong : reference.IsLong) (before after : Text) :
    ∃ error, decode (before ++ reference.written ++ after) = .error error := by
  obtain ⟨error, herror⟩ := exists_error_of_isLong hlong
  rw [decode_around hformed, herror]
  cases decode before with
  | error earlier => exact ⟨earlier, rfl⟩
  | ok front => exact ⟨error, rfl⟩

theorem exists_decode_iff (text : Text) :
    (∃ decoded, decode text = .ok decoded) ↔ ¬ HoldsLong text := by
  constructor
  · rintro ⟨decoded, hdecode⟩ ⟨digits, hdigits, hlong, before, after, rfl⟩
    have hsome : digits ≠ [] := by
      rintro rfl
      simp at hlong
    have hformed : (Reference.decimal digits).IsFormed := ⟨hsome, hdigits⟩
    obtain ⟨error, herror⟩ := exists_error_around hformed hlong before after
    rw [herror] at hdecode
    cases hdecode
  · intro hshort
    cases hdecode : decode text with
    | error error => exact absurd (holdsLong_of_decode_error hdecode) hshort
    | ok decoded => exact ⟨decoded, rfl⟩

section Around

variable {before after front back : Text} (hbefore : decode before = .ok front)
  (hafter : decode after = .ok back)

include hbefore hafter

theorem decode_around_of_value? {reference : Reference} (hformed : reference.IsFormed)
    {value : Option Text} (hvalue : reference.value? = .ok value) :
    decode (before ++ reference.written ++ after) =
      .ok (front ++ value.getD reference.written ++ back) := by
  rw [decode_around hformed, hbefore, hvalue, hafter]
  rfl

theorem decode_around_eq_iff {reference : Reference} (hformed : reference.IsFormed)
    {value : Option Text} (hvalue : ¬ reference.IsLong → reference.value? = .ok value) :
    decode (before ++ reference.written ++ after) =
      .ok (front ++ value.getD reference.written ++ back) ↔ ¬ reference.IsLong := by
  refine ⟨fun hdecode hlong => ?_,
    fun hshort => decode_around_of_value? hbefore hafter hformed (hvalue hshort)⟩
  obtain ⟨error, herror⟩ := exists_error_around hformed hlong before after
  rw [herror] at hdecode
  cases hdecode

/-- Decoding succeeds exactly if the text holds no decimal reference with too many digits.  A
reference either stands for a text or is unresolved.  An unresolved one is left as written, and a
decimal and a hexadecimal reference to one character decode to it, exactly if the decimal one does
not have too many digits. -/
theorem decode_succeeds_iff :
    (∀ text, (∃ decoded, decode text = .ok decoded) ↔ ¬ HoldsLong text) ∧
    (∀ reference : Reference, reference.IsFormed →
      (∃ text, reference.Denotes text) ∨ reference.Unresolved) ∧
    (∀ reference : Reference, reference.Unresolved →
      (decode (before ++ reference.written ++ after) = .ok (front ++ reference.written ++ back) ↔
        ¬ reference.IsLong)) ∧
    ∀ (c mark : Char) (decimals hexadecimals : Text), (mark = 'x' ∨ mark = 'X') →
      Numeral 10 c.toNat decimals → Numeral 16 c.toNat hexadecimals →
      decode (before ++ (Reference.hexadecimal mark hexadecimals).written ++ after) =
        .ok (front ++ [c] ++ back) ∧
      (decode (before ++ (Reference.decimal decimals).written ++ after) =
        .ok (front ++ [c] ++ back) ↔ decimals.length ≤ digitLimit) := by
  refine ⟨exists_decode_iff, fun _ => denotes_or_unresolved, ?_, ?_⟩
  · intro reference hunresolved
    exact decode_around_eq_iff hbefore hafter hunresolved.isFormed hunresolved.value?_eq
  · intro c mark decimals hexadecimals hmark hdecimal hhexadecimal
    have hlow : (Reference.decimal decimals).Denotes [c] := .decimal hdecimal
    have hhigh : (Reference.hexadecimal mark hexadecimals).Denotes [c] :=
      .hexadecimal hmark hhexadecimal
    refine ⟨decode_around_of_value? hbefore hafter hhigh.isFormed (hhigh.value?_eq id), ?_⟩
    rw [← not_lt]
    exact decode_around_eq_iff hbefore hafter hlow.isFormed hlow.value?_eq

end Around

/-- A surrogate between the two ways to write the number of a letter. -/
theorem surrogate_left_between_letters :
    decode ['&', '#', '6', '5', ';'] = .ok ['A'] ∧
    decode ['&', '#', 'x', '4', '1', ';'] = .ok ['A'] ∧
    decode (['&', '#', '6', '5', ';'] ++ ['&', '#', 'x', 'D', '8', '0', '0', ';'] ++
      ['&', '#', 'x', '4', '1', ';']) =
        .ok (['A'] ++ ['&', '#', 'x', 'D', '8', '0', '0', ';'] ++ ['A']) := by
  have hnothing : decode [] = .ok [] := by rw [decode]
  have hdecimal : Numeral 10 'A'.toNat ['6', '5'] := ⟨0, rfl⟩
  have hhexadecimal : Numeral 16 'A'.toNat ['4', '1'] := ⟨0, rfl⟩
  have hcode : Numeral 16 0xD800 ['D', '8', '0', '0'] := ⟨0, rfl⟩
  have hsurrogate : (Reference.hexadecimal 'x' ['D', '8', '0', '0']).Unresolved :=
    .hexadecimal (.inl rfl) hcode (.inl (by decide))
  obtain ⟨-, -, -, hletter⟩ := decode_succeeds_iff hnothing hnothing
  obtain ⟨hhigh, hlow⟩ := hletter 'A' 'x' _ _ (.inl rfl) hdecimal hhexadecimal
  have hfirst : decode ['&', '#', '6', '5', ';'] = .ok ['A'] := hlow.mpr (by decide)
  obtain ⟨-, -, hleft, -⟩ := decode_succeeds_iff hfirst hhigh
  exact ⟨hfirst, hhigh, (hleft _ hsurrogate).mpr id⟩

/-- A number past the last code point with one digit too many. -/
theorem nines_not_decoded :
    (Reference.decimal (List.replicate 4301 '9')).Unresolved ∧
      ¬ ∃ decoded, decode (Reference.decimal (List.replicate 4301 '9')).written = .ok decoded := by
  have hdigits : ∀ d ∈ List.replicate 4301 '9', isDecimal d = true := by
    intro d hmem
    rw [(List.mem_replicate.mp hmem).2]
    rfl
  have hlength : digitLimit < (List.replicate 4301 '9').length := by
    rw [List.length_replicate]
    decide
  have hnumeral : Numeral 10 (number 10 (List.replicate 4301 '9')) (List.replicate 4301 '9') :=
    numeral_ten_iff.mpr ⟨List.ne_nil_of_length_pos (Nat.zero_lt_of_lt hlength), hdigits, rfl⟩
  refine ⟨.decimal hnumeral (.inr (by decide +kernel)), ?_⟩
  rw [exists_decode_iff, not_not]
  exact ⟨_, hdigits, hlength, List.infix_rfl⟩

end TaggedMarkup.Reference
