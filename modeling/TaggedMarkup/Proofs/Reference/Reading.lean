import Mathlib.Data.List.TakeWhile
import TaggedMarkup.Proofs.Reference.Numerals
import TaggedMarkup.Proofs.Text.Utf8

/-!
# Reading references

`read?` takes a reference off a text exactly if one is written there, and then
it takes the whole of it.  A reference denotes a text, or there is no
character for it: its name is not in the table, or its number is a surrogate or
past the last code point.  Decoding takes a text for a sequence of pieces, which
are references and characters that stand for themselves.
-/

namespace TaggedMarkup.Reference

def isNameCharacter (c : Char) : Bool :=
  isLetter c || isDecimal c

/-- The characters of the reference are those that may stand between `&` and `;`. -/
def IsFormed : Reference → Prop
  | .named name => name.head?.any isLetter = true ∧ ∀ c ∈ name, isNameCharacter c = true
  | .decimal digits => digits ≠ [] ∧ ∀ d ∈ digits, isDecimal d = true
  | .hexadecimal mark digits =>
    (mark = 'x' ∨ mark = 'X') ∧ digits ≠ [] ∧ ∀ d ∈ digits, isHexadecimal d = true

/-! ## Runs -/

theorem all_of_readRun? {p : Char → Bool} {text run rest : Text}
    (h : readRun? p text = some (run, rest)) : ∀ c ∈ run, p c = true := by
  unfold readRun? at h
  split at h
  · rename_i first others after htake hdrop
    cases h
    intro c hmem
    rw [← htake] at hmem
    exact List.mem_takeWhile_imp hmem
  · cases h

theorem readRun?_eq_some_iff {p : Char → Bool} (hp : p ';' = false) {text run rest : Text} :
    readRun? p text = some (run, rest) ↔
      run ≠ [] ∧ (∀ c ∈ run, p c = true) ∧ text = run ++ ';' :: rest := by
  constructor
  · intro h
    refine ⟨?_, all_of_readRun? h, eq_append_of_readRun? h⟩
    rintro rfl
    unfold readRun? at h
    split at h <;> simp at h
  · rintro ⟨hsome, hall, rfl⟩
    have htake : (run ++ ';' :: rest).takeWhile p = run := by
      rw [List.takeWhile_append_of_pos hall, List.takeWhile_cons_of_neg (by simp [hp]),
        List.append_nil]
    have hdrop : (run ++ ';' :: rest).dropWhile p = ';' :: rest := by
      rw [List.dropWhile_append_of_pos hall, List.dropWhile_cons_of_neg (by simp [hp])]
    rw [readRun?, htake, hdrop]
    cases run with
    | nil => exact absurd rfl hsome
    | cons c run => rfl

/-! ## References -/

theorem isFormed_of_read? {text rest : Text} {reference : Reference}
    (h : read? text = some (reference, rest)) : reference.IsFormed := by
  unfold read? at h
  split at h
  · rename_i mark after
    split at h
    · rename_i hmark
      obtain ⟨⟨digits, after⟩, hrun, heq⟩ := Option.map_eq_some_iff.mp h
      cases heq
      obtain ⟨hsome, hdigits, -⟩ := (readRun?_eq_some_iff (by decide)).mp hrun
      exact ⟨hmark, hsome, hdigits⟩
    · obtain ⟨⟨digits, after⟩, hrun, heq⟩ := Option.map_eq_some_iff.mp h
      cases heq
      obtain ⟨hsome, hdigits, -⟩ := (readRun?_eq_some_iff (by decide)).mp hrun
      exact ⟨hsome, hdigits⟩
  · rename_i c after _
    split at h
    · rename_i hletter
      obtain ⟨⟨name, after⟩, hrun, heq⟩ := Option.map_eq_some_iff.mp h
      cases heq
      obtain ⟨hsome, hall, heq⟩ := (readRun?_eq_some_iff (by decide)).mp hrun
      obtain ⟨first, name, rfl⟩ := List.exists_cons_of_ne_nil hsome
      rw [List.cons_append, List.cons.injEq] at heq
      exact ⟨by simpa [← heq.1] using hletter, hall⟩
    · cases h
  · cases h

theorem read?_of_isFormed {reference : Reference} (h : reference.IsFormed) {text rest : Text}
    (htext : '&' :: text = reference.written ++ rest) : read? text = some (reference, rest) := by
  cases reference with
  | named name =>
      obtain ⟨hfirst, hall⟩ := h
      obtain ⟨first, name, rfl⟩ : ∃ first others, name = first :: others := by
        cases name with
        | nil => simp at hfirst
        | cons first others => exact ⟨first, others, rfl⟩
      have hletter : isLetter first = true := by simpa using hfirst
      have hmark : first ≠ '#' := by
        rintro rfl
        exact absurd hletter (by decide)
      have heq : text = first :: (name ++ ';' :: rest) := by simpa [written] using htext
      have hrun : readRun? isNameCharacter text = some (first :: name, rest) :=
        (readRun?_eq_some_iff (by decide)).mpr ⟨List.cons_ne_nil first name, hall, heq⟩
      rw [heq] at hrun ⊢
      rw [read?, if_pos hletter]
      · exact Option.map_eq_some_iff.mpr ⟨_, hrun, rfl⟩
      · exact fun _ _ hfirst _ => hmark hfirst
  | decimal digits =>
      obtain ⟨hsome, hall⟩ := h
      obtain ⟨d, digits, rfl⟩ := List.exists_cons_of_ne_nil hsome
      have hmark : ¬ (d = 'x' ∨ d = 'X') := by
        rintro (rfl | rfl) <;> exact absurd (hall _ List.mem_cons_self) (by decide)
      have heq : text = '#' :: d :: (digits ++ ';' :: rest) := by simpa [written] using htext
      rw [heq, read?, if_neg hmark]
      exact Option.map_eq_some_iff.mpr
        ⟨_, (readRun?_eq_some_iff (by decide)).mpr ⟨hsome, hall, rfl⟩, rfl⟩
  | hexadecimal mark digits =>
      obtain ⟨hmark, hsome, hall⟩ := h
      have heq : text = '#' :: mark :: (digits ++ ';' :: rest) := by simpa [written] using htext
      rw [heq, read?, if_pos hmark]
      exact Option.map_eq_some_iff.mpr
        ⟨_, (readRun?_eq_some_iff (by decide)).mpr ⟨hsome, hall, rfl⟩, rfl⟩

/-- A reference is read exactly where one is written. -/
theorem read?_eq_some_iff {text rest : Text} {reference : Reference} :
    read? text = some (reference, rest) ↔
      reference.IsFormed ∧ '&' :: text = reference.written ++ rest :=
  ⟨fun h => ⟨isFormed_of_read? h, eq_written_of_read? h⟩, fun h => read?_of_isFormed h.1 h.2⟩

/-! ## Names -/

theorem isLetter_iff {c : Char} : isLetter c = true ↔
    (97 ≤ c.toNat ∧ c.toNat ≤ 122) ∨ (65 ≤ c.toNat ∧ c.toNat ≤ 90) := by
  simp [isLetter, Char.le_def, UInt32.le_iff_toNat_le]

theorem toNat_lt_of_isNameCharacter {c : Char} (h : isNameCharacter c = true) :
    c.toNat < 128 := by
  rw [isNameCharacter, Bool.or_eq_true, isLetter_iff, isDecimal_iff] at h
  omega

def characterOf (byte : UInt8) : Char :=
  Char.ofNat byte.toNat

theorem toNat_characterOf (byte : UInt8) : (characterOf byte).toNat = byte.toNat :=
  Utf8.val_ofNat (.inl (by have := byte.toNat_lt; omega))

theorem encode_map_characterOf {bytes : List UInt8} (h : ∀ byte ∈ bytes, byte.toNat < 128) :
    Utf8.encode (bytes.map characterOf) = bytes := by
  induction bytes with
  | nil => rfl
  | cons byte bytes ih =>
      have hbyte : Utf8.encode [characterOf byte] = [byte] := by
        simpa [Utf8.encode, characterOf] using Utf8.encodeChar_one (h byte List.mem_cons_self)
      have hbytes := ih fun other hmem => h other (List.mem_cons_of_mem byte hmem)
      rw [List.map_cons, ← List.singleton_append, Utf8.encode_append, hbyte, hbytes,
        List.singleton_append]

-- the table is looked through by bytes: going by characters would decode each of its names
theorem namesFrom_all (first : Char) :
    (namesFrom first).all (fun entry => isLetter first &&
      entry.1.toByteArray.data.toList.all (isNameCharacter ∘ characterOf)) = true := by
  unfold namesFrom
  split
  case h_53 => rfl
  all_goals decide +kernel

theorem isFormed_of_namedCharacters? {name text : Text} (h : namedCharacters? name = some text) :
    (Reference.named name).IsFormed := by
  cases name with
  | nil => cases h
  | cons first others =>
      obtain ⟨codes, hlookup, -⟩ := Option.map_eq_some_iff.mp h
      obtain ⟨before, after, htable, -⟩ := List.lookup_eq_some_iff.mp hlookup
      have hentry := List.all_eq_true.mp (namesFrom_all first)
        (String.ofList (first :: others), codes) (by simp [htable])
      have hbytes : (String.ofList (first :: others)).toByteArray.data.toList =
          Utf8.encode (first :: others) := by
        simp [Utf8.encode, List.utf8Encode]
      simp only [hbytes, Bool.and_eq_true, List.all_eq_true, Function.comp_apply] at hentry
      obtain ⟨hletter, hall⟩ := hentry
      have hsmall : ∀ byte ∈ Utf8.encode (first :: others), byte.toNat < 128 := by
        intro byte hbyte
        rw [← toNat_characterOf]
        exact toNat_lt_of_isNameCharacter (hall byte hbyte)
      have hname : (Utf8.encode (first :: others)).map characterOf = first :: others :=
        Utf8.encode_injective (encode_map_characterOf hsmall)
      refine ⟨by simpa using hletter, ?_⟩
      rw [← hname]
      simpa using hall

/-! ## What a reference stands for -/

/-- The text a reference stands for. -/
inductive Denotes : Reference → Text → Prop
  | named {name text : Text} (h : namedCharacters? name = some text) : Denotes (.named name) text
  | decimal {digits : Text} {c : Char} (h : Numeral 10 c.toNat digits) :
      Denotes (.decimal digits) [c]
  | hexadecimal {mark c : Char} {digits : Text} (hmark : mark = 'x' ∨ mark = 'X')
      (h : Numeral 16 c.toNat digits) : Denotes (.hexadecimal mark digits) [c]

def IsNoCharacter (code : Nat) : Prop :=
  (0xD800 ≤ code ∧ code ≤ 0xDFFF) ∨ 0x10FFFF < code

/-- There is nothing the reference stands for. -/
inductive Unresolved : Reference → Prop
  | named {name : Text} (hformed : (Reference.named name).IsFormed)
      (h : namedCharacters? name = none) : Unresolved (.named name)
  | decimal {digits : Text} {code : Nat} (h : Numeral 10 code digits)
      (hcode : IsNoCharacter code) : Unresolved (.decimal digits)
  | hexadecimal {mark : Char} {digits : Text} {code : Nat} (hmark : mark = 'x' ∨ mark = 'X')
      (h : Numeral 16 code digits) (hcode : IsNoCharacter code) :
      Unresolved (.hexadecimal mark digits)

/-- A decimal reference with more digits than can be read. -/
def IsLong : Reference → Prop
  | .decimal digits => digitLimit < digits.length
  | _ => False

theorem character?_toNat (c : Char) : character? c.toNat = some [c] := by
  have hvalid : c.toNat < 0xD800 ∨ (0xDFFF < c.toNat ∧ c.toNat < 0x110000) := c.valid
  rw [character?, if_neg (by omega), Char.ofNat_toNat]

theorem character?_of_isNoCharacter {code : Nat} (h : IsNoCharacter code) :
    character? code = none := by
  rw [character?, if_pos h.symm]

theorem exists_toNat_eq {code : Nat} (h : ¬ IsNoCharacter code) : ∃ c : Char, c.toNat = code := by
  have hvalid : code.isValidChar := by
    simp only [IsNoCharacter, Nat.isValidChar] at h ⊢
    omega
  exact ⟨Char.ofNat code, Utf8.val_ofNat hvalid⟩

theorem isFormed_decimal {digits : Text} {code : Nat} (h : Numeral 10 code digits) :
    (Reference.decimal digits).IsFormed := by
  obtain ⟨hsome, hall, -⟩ := numeral_ten_iff.mp h
  exact ⟨hsome, hall⟩

theorem isFormed_hexadecimal {mark : Char} {digits : Text} {code : Nat}
    (hmark : mark = 'x' ∨ mark = 'X') (h : Numeral 16 code digits) :
    (Reference.hexadecimal mark digits).IsFormed := by
  obtain ⟨hsome, hall, -⟩ := numeral_sixteen_iff.mp h
  exact ⟨hmark, hsome, hall⟩

theorem value?_decimal {digits : Text} {code : Nat} (h : Numeral 10 code digits)
    (hshort : ¬ digitLimit < digits.length) :
    (Reference.decimal digits).value? = .ok (character? code) := by
  obtain ⟨-, -, hnumber⟩ := numeral_ten_iff.mp h
  rw [value?, if_neg hshort, hnumber]

theorem value?_hexadecimal {mark : Char} {digits : Text} {code : Nat}
    (h : Numeral 16 code digits) :
    (Reference.hexadecimal mark digits).value? = .ok (character? code) := by
  obtain ⟨-, -, hnumber⟩ := numeral_sixteen_iff.mp h
  rw [value?, hnumber]

theorem Denotes.isFormed {reference : Reference} {text : Text} (h : reference.Denotes text) :
    reference.IsFormed := by
  cases h with
  | named h => exact isFormed_of_namedCharacters? h
  | decimal h => exact isFormed_decimal h
  | hexadecimal hmark h => exact isFormed_hexadecimal hmark h

theorem Denotes.value?_eq {reference : Reference} {text : Text} (h : reference.Denotes text)
    (hshort : ¬ reference.IsLong) : reference.value? = .ok (some text) := by
  cases h with
  | named h => rw [value?, h]
  | decimal h => rw [value?_decimal h hshort, character?_toNat]
  | hexadecimal hmark h => rw [value?_hexadecimal h, character?_toNat]

theorem Unresolved.isFormed {reference : Reference} (h : reference.Unresolved) :
    reference.IsFormed := by
  cases h with
  | named hformed h => exact hformed
  | decimal h hcode => exact isFormed_decimal h
  | hexadecimal hmark h hcode => exact isFormed_hexadecimal hmark h

theorem Unresolved.value?_eq {reference : Reference} (h : reference.Unresolved)
    (hshort : ¬ reference.IsLong) : reference.value? = .ok none := by
  cases h with
  | named hformed h => rw [value?, h]
  | decimal h hcode => rw [value?_decimal h hshort, character?_of_isNoCharacter hcode]
  | hexadecimal hmark h hcode => rw [value?_hexadecimal h, character?_of_isNoCharacter hcode]

theorem denotes_or_unresolved {reference : Reference} (h : reference.IsFormed) :
    (∃ text, reference.Denotes text) ∨ reference.Unresolved := by
  cases reference with
  | named name =>
      cases hvalue : namedCharacters? name with
      | none => exact .inr (.named h hvalue)
      | some text => exact .inl ⟨text, .named hvalue⟩
  | decimal digits =>
      have hnumeral : Numeral 10 (number 10 digits) digits := numeral_ten_iff.mpr ⟨h.1, h.2, rfl⟩
      by_cases hcode : IsNoCharacter (number 10 digits)
      · exact .inr (.decimal hnumeral hcode)
      · obtain ⟨c, hc⟩ := exists_toNat_eq hcode
        exact .inl ⟨[c], .decimal (hc ▸ hnumeral)⟩
  | hexadecimal mark digits =>
      have hnumeral : Numeral 16 (number 16 digits) digits :=
        numeral_sixteen_iff.mpr ⟨h.2.1, h.2.2, rfl⟩
      by_cases hcode : IsNoCharacter (number 16 digits)
      · exact .inr (.hexadecimal h.1 hnumeral hcode)
      · obtain ⟨c, hc⟩ := exists_toNat_eq hcode
        exact .inl ⟨[c], .hexadecimal h.1 (hc ▸ hnumeral)⟩

/-! ## Pieces -/

/-- What decoding takes off a text in one step. -/
inductive Piece where
  /-- A character that stands for itself. -/
  | plain (c : Char)
  | reference (reference : Reference)
  deriving DecidableEq, Repr

namespace Piece

def written : Piece → Text
  | .plain c => [c]
  | .reference inner => inner.written

/-- What is put in the place of the piece. -/
def decoded : Piece → Except TooManyDigits Text
  | .plain c => .ok [c]
  | .reference inner => inner.value?.map (·.getD inner.written)

end Piece

/-- The pieces of a text, from left to right. -/
def pieces : Text → List Piece
  | [] => []
  | c :: rest =>
    if c = '&' then
      match _h : read? rest with
      | some (reference, after) => .reference reference :: pieces after
      | none => .plain c :: pieces rest
    else .plain c :: pieces rest
termination_by text => text.length
decreasing_by
  · have := length_lt_of_read? (by assumption)
    simp only [List.length_cons]
    omega
  · simp
  · simp

theorem pieces_nil : pieces [] = [] := by
  rw [pieces]

theorem pieces_of_reference {rest after : Text} {reference : Reference}
    (h : read? rest = some (reference, after)) :
    pieces ('&' :: rest) = .reference reference :: pieces after := by
  rw [pieces, if_pos rfl]
  split
  · rename_i hread
    rw [h] at hread
    cases hread
    rfl
  · rename_i hread
    rw [h] at hread
    cases hread

theorem pieces_of_none {c : Char} {rest : Text} (h : c = '&' → read? rest = none) :
    pieces (c :: rest) = .plain c :: pieces rest := by
  rw [pieces]
  split
  · rename_i hc
    split
    · rename_i hread
      rw [h hc] at hread
      cases hread
    · rfl
  · rfl

/-- A text is decoded piece by piece. -/
theorem decode_eq_pieces (text : Text) :
    decode text = ((pieces text).mapM Piece.decoded).map List.flatten := by
  have hplain (c : Char) (rest : Text)
      (ih : decode rest = ((pieces rest).mapM Piece.decoded).map List.flatten)
      (hnone : c = '&' → read? rest = none) :
      (do
        let decoded ← decode rest
        pure (c :: decoded)) =
      ((pieces (c :: rest)).mapM Piece.decoded).map List.flatten := by
    rw [pieces_of_none hnone, List.mapM_cons, ih]
    cases (pieces rest).mapM Piece.decoded <;> rfl
  fun_induction decode text with
  | case1 =>
      rw [pieces_nil]
      rfl
  | case2 rest reference after hread ih =>
      rw [pieces_of_reference hread, List.mapM_cons, ih, Piece.decoded]
      cases reference.value? with
      | error error => rfl
      | ok value => cases (pieces after).mapM Piece.decoded <;> rfl
  | case3 rest hread ih => exact hplain '&' rest ih fun _ => hread
  | case4 c rest hc ih => exact hplain c rest ih fun heq => absurd heq hc

theorem decode_of_reference {rest after : Text} {reference : Reference}
    (h : read? rest = some (reference, after)) :
    decode ('&' :: rest) = (do
      let value ← reference.value?
      let decoded ← decode after
      pure (value.getD reference.written ++ decoded)) := by
  rw [decode_eq_pieces, pieces_of_reference h, List.mapM_cons, Piece.decoded,
    decode_eq_pieces after]
  cases reference.value? with
  | error error => rfl
  | ok value => cases (pieces after).mapM Piece.decoded <;> rfl

theorem decode_of_none {c : Char} {rest : Text} (h : c = '&' → read? rest = none) :
    decode (c :: rest) = (do
      let decoded ← decode rest
      pure (c :: decoded)) := by
  rw [decode_eq_pieces, pieces_of_none h, List.mapM_cons, decode_eq_pieces rest]
  cases (pieces rest).mapM Piece.decoded <;> rfl

end TaggedMarkup.Reference
