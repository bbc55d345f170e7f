import TaggedMarkup.Text.Utf8

/-!
# Reading UTF-8 back

The bytes of a text, read, are the text, and no other bytes are read as it.  A
character of several bytes is read byte by byte, so each step says what the
bytes read so far still expect.  Bytes cut out of a text where characters end
are the bytes of a part of it, and so can be read as well.
-/

namespace TaggedMarkup.Utf8

/-! ## One character -/

/-- So many bytes are to come after these bits, and the next may carry `next`. -/
structure Begun.Expects (begun : Begun) (owed code next : Nat) : Prop where
  owed_eq : begun.owed = owed
  code_eq : begun.code = code
  low_le : begun.low.toNat ≤ next + 128
  le_high : next + 128 ≤ begun.high.toNat

theorem Begun.Expects.allows {begun : Begun} {owed code next : Nat}
    (h : begun.Expects owed code next) :
    (UInt8.ofNat (next + 128)).toNat = next + 128 ∧
      begun.low ≤ UInt8.ofNat (next + 128) ∧ UInt8.ofNat (next + 128) ≤ begun.high := by
  have hlow := h.low_le
  have hhigh := h.le_high
  have hbound := begun.high.toNat_lt
  have hbyte : (UInt8.ofNat (next + 128)).toNat = next + 128 :=
    UInt8.toNat_ofNat_of_lt' (Nat.lt_of_le_of_lt hhigh hbound)
  rw [UInt8.le_iff_toNat_le, UInt8.le_iff_toNat_le, hbyte]
  exact ⟨rfl, hlow, hhigh⟩

theorem Begun.Expects.last {begun : Begun} {code next : Nat} (h : begun.Expects 1 code next)
    (position : Nat) (bytes : List UInt8) :
    decodeFrom position (some begun) (UInt8.ofNat (next + 128) :: bytes) =
      (decodeFrom (position + 1) none bytes).map (Char.ofNat (code * 64 + next) :: ·) := by
  obtain ⟨hbyte, hallowed⟩ := h.allows
  rw [decodeFrom, if_pos hallowed]
  simp only [h.owed_eq, h.code_eq, hbyte, Nat.add_sub_cancel, Nat.le_refl, if_true]

theorem Begun.Expects.more {begun : Begun} {owed code next following : Nat}
    (h : begun.Expects (owed + 2) code next) (hfollowing : following < 64)
    (position : Nat) (bytes : List UInt8) :
    ∃ continued : Begun, continued.Expects (owed + 1) (code * 64 + next) following ∧
      decodeFrom position (some begun) (UInt8.ofNat (next + 128) :: bytes) =
        decodeFrom (position + 1) (some continued) bytes := by
  obtain ⟨hbyte, hallowed⟩ := h.allows
  rw [decodeFrom, if_pos hallowed]
  simp only [h.owed_eq, h.code_eq, hbyte, Nat.add_sub_cancel]
  rw [if_neg (by omega)]
  refine ⟨_, ⟨rfl, rfl, ?_, ?_⟩, rfl⟩
  · exact Nat.le_add_left 128 following
  · show following + 128 ≤ 191
    omega

theorem decodeFrom_begin {position : Nat} {lead : UInt8} {begun : Begun}
    (hlead : 128 ≤ lead.toNat) (hbegin : begin? position lead = some begun)
    (bytes : List UInt8) :
    decodeFrom position none (lead :: bytes) = decodeFrom (position + 1) (some begun) bytes := by
  have hlarge : ¬ lead < 0x80 := by
    rw [UInt8.lt_iff_toNat_lt]
    exact Nat.not_lt.mpr hlead
  rw [decodeFrom, if_neg hlarge, hbegin]

theorem toNat_ofNat {byte : Nat} (h : byte < 256) : (UInt8.ofNat byte).toNat = byte :=
  UInt8.toNat_ofNat_of_lt' h

theorem begin?_two {code next : Nat} (hcode : 2 ≤ code ∧ code < 32) (hnext : next < 64)
    (position : Nat) :
    ∃ begun, begin? position (UInt8.ofNat (code + 192)) = some begun ∧
      begun.Expects 1 code next := by
  have hlead : (UInt8.ofNat (code + 192)).toNat = code + 192 := toNat_ofNat (by omega)
  simp only [begin?, UInt8.le_iff_toNat_le, ← UInt8.toNat_inj, hlead, UInt8.reduceToNat]
  rw [if_pos (by omega)]
  exact ⟨_, rfl, rfl, by simp, by simp, by simp; omega⟩

/-- The least and the greatest code of three bytes, and those kept free of characters, show in the
second byte. -/
theorem begin?_three {code next : Nat} (hcode : code < 16) (hnext : next < 64)
    (hshortest : code = 0 → 32 ≤ next) (hsurrogate : code = 13 → next < 32) (position : Nat) :
    ∃ begun, begin? position (UInt8.ofNat (code + 224)) = some begun ∧
      begun.Expects 2 code next := by
  have hlead : (UInt8.ofNat (code + 224)).toNat = code + 224 := toNat_ofNat (by omega)
  simp only [begin?, UInt8.le_iff_toNat_le, ← UInt8.toNat_inj, hlead, UInt8.reduceToNat]
  rw [if_neg (by omega)]
  split
  case isTrue hzero => exact ⟨_, rfl, rfl, by simp; omega, by simp; omega, by simp; omega⟩
  case isFalse =>
    split
    case isTrue hthirteen => exact ⟨_, rfl, rfl, by simp; omega, by simp, by simp; omega⟩
    case isFalse =>
      rw [if_pos (by omega)]
      exact ⟨_, rfl, rfl, by simp, by simp, by simp; omega⟩

theorem begin?_four {code next : Nat} (hcode : code < 5) (hnext : next < 64)
    (hshortest : code = 0 → 16 ≤ next) (hgreatest : code = 4 → next < 16) (position : Nat) :
    ∃ begun, begin? position (UInt8.ofNat (code + 240)) = some begun ∧
      begun.Expects 3 code next := by
  have hlead : (UInt8.ofNat (code + 240)).toNat = code + 240 := toNat_ofNat (by omega)
  simp only [begin?, UInt8.le_iff_toNat_le, ← UInt8.toNat_inj, hlead, UInt8.reduceToNat]
  rw [if_neg (by omega), if_neg (by omega), if_neg (by omega), if_neg (by omega)]
  split
  case isTrue hzero => exact ⟨_, rfl, rfl, by simp; omega, by simp; omega, by simp; omega⟩
  case isFalse =>
    split
    case isTrue hfour => exact ⟨_, rfl, rfl, by simp; omega, by simp, by simp; omega⟩
    case isFalse =>
      rw [if_pos (by omega)]
      exact ⟨_, rfl, rfl, by simp, by simp, by simp; omega⟩

theorem decodeFrom_one {code : Nat} (h : code < 128) (position : Nat) (bytes : List UInt8) :
    decodeFrom position none (UInt8.ofNat code :: bytes) =
      (decodeFrom (position + 1) none bytes).map (Char.ofNat code :: ·) := by
  have hbyte : (UInt8.ofNat code).toNat = code := toNat_ofNat (by omega)
  have hsmall : UInt8.ofNat code < 0x80 := by
    rw [UInt8.lt_iff_toNat_lt, hbyte]
    exact h
  rw [decodeFrom, if_pos hsmall, hbyte]

theorem decodeFrom_two {code : Nat} (hlow : 128 ≤ code) (hhigh : code < 2048)
    (position : Nat) (bytes : List UInt8) :
    decodeFrom position none
        (UInt8.ofNat (code / 64 % 32 + 192) :: UInt8.ofNat (code % 64 + 128) :: bytes) =
      (decodeFrom (position + 2) none bytes).map (Char.ofNat code :: ·) := by
  have hlead : 2 ≤ code / 64 % 32 ∧ code / 64 % 32 < 32 := by omega
  obtain ⟨begun, hbegin, hexpects⟩ := begin?_two hlead (Nat.mod_lt code (by decide)) position
  have hcode : code / 64 % 32 * 64 + code % 64 = code := by omega
  rw [decodeFrom_begin (by rw [toNat_ofNat] <;> omega) hbegin, hexpects.last, hcode]

theorem decodeFrom_three {code : Nat} (hlow : 2048 ≤ code) (hhigh : code < 65536)
    (hvalid : code < 55296 ∨ 57343 < code) (position : Nat) (bytes : List UInt8) :
    decodeFrom position none
        (UInt8.ofNat (code / 4096 % 16 + 224) :: UInt8.ofNat (code / 64 % 64 + 128) ::
          UInt8.ofNat (code % 64 + 128) :: bytes) =
      (decodeFrom (position + 3) none bytes).map (Char.ofNat code :: ·) := by
  have hnext : code / 64 % 64 < 64 := Nat.mod_lt _ (by decide)
  have hlead : code / 4096 % 16 < 16 := Nat.mod_lt _ (by decide)
  have hshortest : code / 4096 % 16 = 0 → 32 ≤ code / 64 % 64 := by omega
  have hsurrogate : code / 4096 % 16 = 13 → code / 64 % 64 < 32 := by omega
  obtain ⟨begun, hbegin, hexpects⟩ := begin?_three hlead hnext hshortest hsurrogate position
  have hlast : code % 64 < 64 := Nat.mod_lt _ (by decide)
  obtain ⟨second, hsecond, hread⟩ := hexpects.more hlast (position + 1)
    (UInt8.ofNat (code % 64 + 128) :: bytes)
  have hcode : (code / 4096 % 16 * 64 + code / 64 % 64) * 64 + code % 64 = code := by omega
  rw [decodeFrom_begin (by rw [toNat_ofNat] <;> omega) hbegin, hread, hsecond.last, hcode]

theorem decodeFrom_four {code : Nat} (hlow : 65536 ≤ code) (hhigh : code < 1114112)
    (position : Nat) (bytes : List UInt8) :
    decodeFrom position none
        (UInt8.ofNat (code / 262144 % 8 + 240) :: UInt8.ofNat (code / 4096 % 64 + 128) ::
          UInt8.ofNat (code / 64 % 64 + 128) :: UInt8.ofNat (code % 64 + 128) :: bytes) =
      (decodeFrom (position + 4) none bytes).map (Char.ofNat code :: ·) := by
  have hnext : code / 4096 % 64 < 64 := Nat.mod_lt _ (by decide)
  have hlead : code / 262144 % 8 < 5 := by omega
  have hshortest : code / 262144 % 8 = 0 → 16 ≤ code / 4096 % 64 := by omega
  have hgreatest : code / 262144 % 8 = 4 → code / 4096 % 64 < 16 := by omega
  obtain ⟨begun, hbegin, hexpects⟩ := begin?_four hlead hnext hshortest hgreatest position
  have hthird : code / 64 % 64 < 64 := Nat.mod_lt _ (by decide)
  obtain ⟨second, hsecond, hread⟩ := hexpects.more hthird (position + 1)
    (UInt8.ofNat (code / 64 % 64 + 128) :: UInt8.ofNat (code % 64 + 128) :: bytes)
  have hlast : code % 64 < 64 := Nat.mod_lt _ (by decide)
  obtain ⟨third, hthirdExpects, hreadThird⟩ := hsecond.more hlast (position + 1 + 1)
    (UInt8.ofNat (code % 64 + 128) :: bytes)
  have hcode : ((code / 262144 % 8 * 64 + code / 4096 % 64) * 64 + code / 64 % 64) * 64 +
      code % 64 = code := by omega
  rw [decodeFrom_begin (by rw [toNat_ofNat] <;> omega) hbegin, hread, hreadThird,
    hthirdExpects.last, hcode]

/-- The bytes of a character, whatever follows them, are read as the character. -/
theorem decodeFrom_char (c : Char) (position : Nat) (bytes : List UInt8) :
    decodeFrom position none (String.utf8EncodeChar c ++ bytes) =
      (decodeFrom (position + (String.utf8EncodeChar c).length) none bytes).map (c :: ·) := by
  have hvalid : c.toNat < 55296 ∨ 57343 < c.toNat ∧ c.toNat < 1114112 := c.valid
  have hchar : Char.ofNat c.toNat = c := c.ofNat_toNat
  have hval : c.val.toNat = c.toNat := rfl
  generalize c.toNat = code at hvalid hchar hval
  subst hchar
  unfold String.utf8EncodeChar
  rw [hval]
  dsimp only
  split
  case isTrue hone => exact decodeFrom_one (by omega) position bytes
  case isFalse hone =>
    split
    case isTrue htwo => exact decodeFrom_two (by omega) (by omega) position bytes
    case isFalse htwo =>
      split
      case isTrue hthree =>
        exact decodeFrom_three (by omega) (by omega) (by omega) position bytes
      case isFalse hthree => exact decodeFrom_four (by omega) (by omega) position bytes

/-! ## Whole texts -/

theorem decodeFrom_encode (text : Text) (position : Nat) :
    decodeFrom position none (encode text) = .ok text := by
  induction text generalizing position with
  | nil => rfl
  | cons c text ih =>
      have hbytes : encode (c :: text) = String.utf8EncodeChar c ++ encode text := by
        simp [encode]
      rw [hbytes, decodeFrom_char, ih]
      rfl

@[simp] theorem decode_encode (text : Text) : decode (encode text) = .ok text :=
  decodeFrom_encode text 0

theorem encode_injective {first second : Text} (h : encode first = encode second) :
    first = second := by
  have := congrArg decode h
  simpa using this

/-! ## Reading is strict -/

theorem val_ofNat {code : Nat} (h : code.isValidChar) : (Char.ofNat code).val.toNat = code := by
  rw [Char.ofNat, dif_pos h]
  rfl

theorem ofNat_eq_of_toNat {byte : UInt8} {value : Nat} (h : value = byte.toNat) :
    UInt8.ofNat value = byte := by
  rw [h, UInt8.ofNat_toNat]

theorem encodeChar_one {byte : UInt8} (h : byte.toNat < 128) :
    String.utf8EncodeChar (Char.ofNat byte.toNat) = [byte] := by
  rw [String.utf8EncodeChar, val_ofNat (Or.inl (by omega))]
  rw [if_pos (by omega), UInt8.ofNat_toNat]

theorem encodeChar_two {lead last : UInt8} {code : Nat} (hrange : 128 ≤ code ∧ code < 2048)
    (hlead : lead.toNat = code / 64 + 192) (hlast : last.toNat = code % 64 + 128) :
    String.utf8EncodeChar (Char.ofNat code) = [lead, last] := by
  rw [String.utf8EncodeChar, val_ofNat (Or.inl (by omega))]
  rw [if_neg (by omega), if_pos (by omega),
    ofNat_eq_of_toNat (show code / 64 % 32 + 192 = lead.toNat by omega),
    ofNat_eq_of_toNat hlast.symm]

theorem encodeChar_three {lead second last : UInt8} {code : Nat}
    (hrange : 2048 ≤ code ∧ code < 65536) (hvalid : code < 55296 ∨ 57343 < code)
    (hlead : lead.toNat = code / 4096 + 224) (hsecond : second.toNat = code / 64 % 64 + 128)
    (hlast : last.toNat = code % 64 + 128) :
    String.utf8EncodeChar (Char.ofNat code) = [lead, second, last] := by
  have hchar : code.isValidChar := by
    unfold Nat.isValidChar
    omega
  rw [String.utf8EncodeChar, val_ofNat hchar]
  rw [if_neg (by omega), if_neg (by omega), if_pos (by omega),
    ofNat_eq_of_toNat (show code / 4096 % 16 + 224 = lead.toNat by omega),
    ofNat_eq_of_toNat hsecond.symm, ofNat_eq_of_toNat hlast.symm]

theorem encodeChar_four {lead second third last : UInt8} {code : Nat}
    (hrange : 65536 ≤ code ∧ code < 1114112)
    (hlead : lead.toNat = code / 262144 + 240) (hsecond : second.toNat = code / 4096 % 64 + 128)
    (hthird : third.toNat = code / 64 % 64 + 128) (hlast : last.toNat = code % 64 + 128) :
    String.utf8EncodeChar (Char.ofNat code) = [lead, second, third, last] := by
  have hchar : code.isValidChar := by
    unfold Nat.isValidChar
    omega
  rw [String.utf8EncodeChar, val_ofNat hchar]
  rw [if_neg (by omega), if_neg (by omega), if_neg (by omega),
    ofNat_eq_of_toNat (show code / 262144 % 8 + 240 = lead.toNat by omega),
    ofNat_eq_of_toNat hsecond.symm, ofNat_eq_of_toNat hthird.symm, ofNat_eq_of_toNat hlast.symm]

/-- Whatever bytes follow in their ranges, the character they complete has those bytes and the ones
already read; one more byte is owed than the number says. -/
def Pending (low high : UInt8) (code : Nat) (read : List UInt8) : Nat → Prop
  | 0 => ∀ byte, low ≤ byte → byte ≤ high →
    String.utf8EncodeChar (Char.ofNat (code * 64 + (byte.toNat - 128))) = read ++ [byte]
  | owed + 1 => ∀ byte, low ≤ byte → byte ≤ high →
    Pending 0x80 0xBF (code * 64 + (byte.toNat - 128)) (read ++ [byte]) owed

theorem pending_two {lead : UInt8} {code : Nat} (hlead : lead.toNat = code + 192)
    (hcode : 2 ≤ code ∧ code < 32) : Pending 0x80 0xBF code [lead] 0 := by
  intro last hlow hhigh
  simp only [UInt8.le_iff_toNat_le, UInt8.reduceToNat] at hlow hhigh
  exact encodeChar_two (by omega) (by omega) (by omega)

theorem pending_three {lead low high : UInt8} {code : Nat} (hlead : lead.toNat = code + 224)
    (hcode : code < 16) (hlow : 128 ≤ low.toNat) (hhigh : high.toNat ≤ 191)
    (hshortest : code = 0 → 160 ≤ low.toNat) (hsurrogate : code = 13 → high.toNat < 160) :
    Pending low high code [lead] 1 := by
  intro second hsecondLow hsecondHigh last hlastLow hlastHigh
  simp only [UInt8.le_iff_toNat_le, UInt8.reduceToNat] at *
  exact encodeChar_three (by omega) (by omega) (by omega) (by omega) (by omega)

theorem pending_four {lead low high : UInt8} {code : Nat} (hlead : lead.toNat = code + 240)
    (hcode : code < 5) (hlow : 128 ≤ low.toNat) (hhigh : high.toNat ≤ 191)
    (hshortest : code = 0 → 144 ≤ low.toNat) (hgreatest : code = 4 → high.toNat < 144) :
    Pending low high code [lead] 2 := by
  intro second hsecondLow hsecondHigh third hthirdLow hthirdHigh last hlastLow hlastHigh
  simp only [UInt8.le_iff_toNat_le, UInt8.reduceToNat] at *
  exact encodeChar_four (by omega) (by omega) (by omega) (by omega) (by omega)

theorem begin?_pending {position : Nat} {lead : UInt8} {begun : Begun}
    (h : begin? position lead = some begun) :
    ∃ owed, begun.owed = owed + 1 ∧ Pending begun.low begun.high begun.code [lead] owed := by
  simp only [begin?, UInt8.le_iff_toNat_le, ← UInt8.toNat_inj, UInt8.reduceToNat] at h
  repeat' split at h
  all_goals cases h
  -- one goal for each kind of first byte
  · exact ⟨0, rfl, pending_two (by simp only; omega) (by simp only; omega)⟩
  · exact ⟨1, rfl, pending_three (by omega) (by simp) (by simp) (by simp) (by simp) (by simp)⟩
  · exact ⟨1, rfl, pending_three (by omega) (by simp) (by simp) (by simp) (by simp) (by simp)⟩
  · exact ⟨1, rfl, pending_three (by simp only; omega) (by simp only; omega) (by simp) (by simp)
      (by simp only; omega) (by simp only; omega)⟩
  · exact ⟨2, rfl, pending_four (by omega) (by simp) (by simp) (by simp) (by simp) (by simp)⟩
  · exact ⟨2, rfl, pending_four (by omega) (by simp) (by simp) (by simp) (by simp) (by simp)⟩
  · exact ⟨2, rfl, pending_four (by simp only; omega) (by simp only; omega) (by simp) (by simp)
      (by simp only; omega) (by simp only; omega)⟩

theorem map_eq_ok {c : Char} {result : Except Error Text} {text : Text}
    (h : result.map (c :: ·) = .ok text) : ∃ rest, result = .ok rest ∧ text = c :: rest := by
  cases result with
  | error error => cases h
  | ok rest =>
      cases h
      exact ⟨rest, rfl, rfl⟩

theorem encode_of_decodeFrom : ∀ (bytes : List UInt8) (position : Nat) (text : Text),
    (decodeFrom position none bytes = .ok text → encode text = bytes) ∧
    ∀ (begun : Begun) (read : List UInt8) (owed : Nat), begun.owed = owed + 1 →
      Pending begun.low begun.high begun.code read owed →
      decodeFrom position (some begun) bytes = .ok text → encode text = read ++ bytes
  | [], position, text => by
    constructor
    · intro h
      cases h
      rfl
    · intro begun read owed _ _ h
      cases h
  | byte :: bytes, position, text => by
    constructor
    · intro h
      rw [decodeFrom] at h
      split at h
      case isTrue hsmall =>
        obtain ⟨rest, hrest, rfl⟩ := map_eq_ok h
        have hbytes := (encode_of_decodeFrom bytes (position + 1) rest).1 hrest
        have hchar := encodeChar_one (UInt8.lt_iff_toNat_lt.mp hsmall)
        simp only [encode, List.flatMap_cons, hchar] at hbytes ⊢
        rw [hbytes]
        rfl
      case isFalse =>
        cases hbegin : begin? position byte with
        | none =>
            rw [hbegin] at h
            cases h
        | some begun =>
            rw [hbegin] at h
            obtain ⟨owed, howed, hpending⟩ := begin?_pending hbegin
            exact (encode_of_decodeFrom bytes (position + 1) text).2 begun [byte] owed howed
              hpending h
    · intro begun read owed howed hpending h
      rw [decodeFrom] at h
      split at h
      case isFalse => cases h
      case isTrue hrange =>
        cases owed with
        | zero =>
            rw [if_pos (by omega)] at h
            obtain ⟨rest, hrest, rfl⟩ := map_eq_ok h
            have hbytes := (encode_of_decodeFrom bytes (position + 1) rest).1 hrest
            have hchar := hpending byte hrange.1 hrange.2
            simp only [encode, List.flatMap_cons] at hbytes ⊢
            rw [hbytes, hchar, List.append_assoc]
            rfl
        | succ owed =>
            rw [if_neg (by omega)] at h
            have hbytes := (encode_of_decodeFrom bytes (position + 1) text).2 _ (read ++ [byte])
              owed (by simp only; omega) (hpending byte hrange.1 hrange.2) h
            rw [hbytes, List.append_assoc]
            rfl

/-- Bytes are read as a text only if they are its bytes. -/
theorem decode_eq_ok_iff {bytes : List UInt8} {text : Text} :
    decode bytes = .ok text ↔ encode text = bytes := by
  constructor
  · exact (encode_of_decodeFrom bytes 0 text).1
  · rintro rfl
    exact decode_encode text

/-! ## Cutting a text -/

/-- A character of the text begins at the offset, or the text ends there. -/
def IsBoundary (text : Text) (offset : Nat) : Prop :=
  ∃ before after, text = before ++ after ∧ (encode before).length = offset

theorem isBoundary_iff {text : Text} {offset : Nat} : IsBoundary text offset ↔
    ∃ count ∈ List.range (text.length + 1), (encode (text.take count)).length = offset := by
  constructor
  · rintro ⟨before, after, rfl, rfl⟩
    refine ⟨before.length, ?_, by rw [List.take_left]⟩
    rw [List.mem_range, List.length_append]
    omega
  · rintro ⟨count, -, rfl⟩
    exact ⟨text.take count, text.drop count, (List.take_append_drop count text).symm, rfl⟩

instance (text : Text) (offset : Nat) : Decidable (IsBoundary text offset) :=
  decidable_of_iff _ isBoundary_iff.symm

theorem isBoundary_zero (text : Text) : IsBoundary text 0 :=
  ⟨[], text, rfl, rfl⟩

theorem isBoundary_length (text : Text) : IsBoundary text (encode text).length :=
  ⟨text, [], (List.append_nil text).symm, rfl⟩

theorem IsBoundary.le_length {text : Text} {offset : Nat} (h : IsBoundary text offset) :
    offset ≤ (encode text).length := by
  obtain ⟨before, after, rfl, rfl⟩ := h
  rw [encode_append, List.length_append]
  exact Nat.le_add_right _ _

/-- Between two boundaries stand the bytes of a part of the text. -/
theorem IsBoundary.between {text : Text} {start stop : Nat} (hstart : IsBoundary text start)
    (hstop : IsBoundary text stop) :
    ∃ part, encode part = ((encode text).take stop).drop start := by
  obtain ⟨before, after, rfl, rfl⟩ := hstart
  obtain ⟨upTo, rest, hsplit, rfl⟩ := hstop
  rcases List.append_eq_append_iff.mp hsplit with ⟨part, rfl, rfl⟩ | ⟨part, rfl, rfl⟩
  · have hbytes : encode (before ++ (part ++ rest)) = encode (before ++ part) ++ encode rest := by
      simp
    refine ⟨part, ?_⟩
    rw [hbytes, List.take_left, encode_append, List.drop_left]
  · -- the boundaries are the other way round, so nothing stands between them
    have hempty : (encode upTo).length ≤ (encode (upTo ++ part)).length := by simp
    refine ⟨[], ?_⟩
    rw [encode_nil, eq_comm, List.drop_eq_nil_iff, List.length_take]
    exact Nat.le_trans (Nat.min_le_left _ _) hempty

end TaggedMarkup.Utf8
