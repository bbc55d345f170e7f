import TaggedMarkup.Proofs.Text.Utf8
import TaggedMarkup.Text.Lines

/-!
# Line ends in bytes

The bytes of a text show its line ends: a carriage return is the byte 13 and
nothing else is.  So line ends can be folded before decoding as well as after
it.  To an offset into the folded bytes belongs an offset into the bytes as they
were, and what stands between two offsets is folded on its own.
-/

namespace TaggedMarkup

/-! ## Folding -/

/-- Writes every line end as one line feed. -/
def foldBytes : List UInt8 → List UInt8
  | [] => []
  | 13 :: 10 :: rest => 10 :: foldBytes rest
  | 13 :: rest => 10 :: foldBytes rest
  | byte :: rest => byte :: foldBytes rest

/-- A byte that does not begin a line end of two bytes is folded on its own. -/
theorem foldBytes_single {byte : UInt8} {rest : List UInt8}
    (h : ∀ later, byte = 13 → rest = 10 :: later → False) :
    foldBytes (byte :: rest) = (if byte = 13 then 10 else byte) :: foldBytes rest := by
  split
  · rename_i hreturn
    subst hreturn
    rw [foldBytes]
    exact fun later => h later rfl
  · rename_i hother
    rw [foldBytes]
    · exact fun _ hreturn _ => hother hreturn
    · exact hother

theorem foldBytes_append {first : List UInt8} (h : 13 ∉ first) (rest : List UInt8) :
    foldBytes (first ++ rest) = first ++ foldBytes rest := by
  induction first with
  | nil => rfl
  | cons byte first ih =>
      rw [List.mem_cons, not_or] at h
      rw [List.cons_append, foldBytes_single fun _ hreturn _ => h.1 hreturn.symm,
        if_neg (Ne.symm h.1), ih h.2, List.cons_append]

theorem length_foldBytes_le (bytes : List UInt8) : (foldBytes bytes).length ≤ bytes.length := by
  fun_induction foldBytes bytes with
  | case1 => exact Nat.le_refl 0
  | case2 rest ih =>
      simp only [List.length_cons]
      omega
  | case3 rest _ ih => exact Nat.succ_le_succ ih
  | case4 byte rest _ _ ih => exact Nat.succ_le_succ ih

theorem return_not_mem_foldBytes (bytes : List UInt8) : 13 ∉ foldBytes bytes := by
  fun_induction foldBytes bytes with
  | case1 => exact List.not_mem_nil
  | case2 rest ih => simpa using ih
  | case3 rest _ ih => simpa using ih
  | case4 byte rest _ hreturn ih => simpa [Ne.symm hreturn] using ih

/-- Folding changes bytes exactly if there is a carriage return among them. -/
theorem foldBytes_eq_self_iff {bytes : List UInt8} : foldBytes bytes = bytes ↔ 13 ∉ bytes := by
  constructor
  · intro h
    rw [← h]
    exact return_not_mem_foldBytes bytes
  · intro h
    simpa [foldBytes] using foldBytes_append h []

/-! ## Text -/

/-- A byte below 128 stands for the character of this code, and is its only byte. -/
theorem toNat_of_mem_utf8EncodeChar {c : Char} {byte : UInt8} (hbyte : byte.toNat < 128)
    (hmem : byte ∈ String.utf8EncodeChar c) : c.toNat = byte.toNat := by
  have hvalid : c.toNat < 55296 ∨ 57343 < c.toNat ∧ c.toNat < 1114112 := c.valid
  have hval : c.val.toNat = c.toNat := rfl
  have hvalue : ∀ {value : Nat}, value < 256 → byte = UInt8.ofNat value → byte.toNat = value := by
    intro value hsmall heq
    rw [heq, Utf8.toNat_ofNat hsmall]
  unfold String.utf8EncodeChar at hmem
  rw [hval] at hmem
  dsimp only at hmem
  split at hmem
  case isTrue hone => exact (hvalue (by omega) (List.mem_singleton.mp hmem)).symm
  case isFalse hone =>
    -- every byte of a longer character has its highest bit set
    have hhigh : ∀ {value : Nat}, 128 ≤ value → value < 256 → byte ≠ UInt8.ofNat value := by
      intro value hlarge hsmall heq
      have := hvalue hsmall heq
      omega
    split at hmem
    case isTrue htwo =>
      simp only [List.mem_cons, List.not_mem_nil, or_false] at hmem
      rcases hmem with hmem | hmem <;> exact absurd hmem (hhigh (by omega) (by omega))
    case isFalse htwo =>
      split at hmem
      case isTrue hthree =>
        simp only [List.mem_cons, List.not_mem_nil, or_false] at hmem
        rcases hmem with hmem | hmem | hmem <;> exact absurd hmem (hhigh (by omega) (by omega))
      case isFalse hthree =>
        simp only [List.mem_cons, List.not_mem_nil, or_false] at hmem
        rcases hmem with hmem | hmem | hmem | hmem <;>
          exact absurd hmem (hhigh (by omega) (by omega))

theorem return_not_mem_utf8EncodeChar {c : Char} (h : c ≠ '\r') :
    13 ∉ String.utf8EncodeChar c := fun hmem =>
  h (Char.toNat_inj.mp (toNat_of_mem_utf8EncodeChar (by decide) hmem))

theorem encode_cons (c : Char) (text : Text) :
    Utf8.encode (c :: text) = String.utf8EncodeChar c ++ Utf8.encode text :=
  List.flatMap_cons

theorem head_of_encode {text : Text} {later : List UInt8} (h : Utf8.encode text = 10 :: later) :
    ∃ rest, text = '\n' :: rest := by
  cases text with
  | nil => cases h
  | cons c rest =>
      have hmem : 10 ∈ String.utf8EncodeChar c := by
        rw [encode_cons] at h
        cases hbytes : String.utf8EncodeChar c with
        | nil => exact absurd hbytes String.utf8EncodeChar_ne_nil
        | cons first others =>
            rw [hbytes] at h
            cases h
            exact List.mem_cons_self
      have hfeed : c = '\n' :=
        Char.toNat_inj.mp (toNat_of_mem_utf8EncodeChar (by decide) hmem)
      exact ⟨rest, by rw [hfeed]⟩

/-- Line ends are folded alike in a text and in its bytes. -/
theorem encode_foldLineEnds (text : Text) :
    Utf8.encode (foldLineEnds text) = foldBytes (Utf8.encode text) := by
  fun_induction foldLineEnds text with
  | case1 => rfl
  | case2 rest ih =>
      rw [encode_cons, ih]
      rfl
  | case3 rest hnext ih =>
      have hsingle : ∀ later, Utf8.encode rest = 10 :: later → False := by
        intro later hlater
        obtain ⟨tail, htail⟩ := head_of_encode hlater
        exact hnext tail htail
      rw [encode_cons, encode_cons, ih]
      have hfold : foldBytes (13 :: Utf8.encode rest) = 10 :: foldBytes (Utf8.encode rest) :=
        foldBytes_single fun later _ => hsingle later
      exact hfold.symm
  | case4 c rest _ hreturn ih =>
      rw [encode_cons, encode_cons, ih, foldBytes_append (return_not_mem_utf8EncodeChar hreturn)]

/-! ## Offsets -/

/-- Where the bytes begin that are folded to what stands behind an offset. -/
def originalOffset : List UInt8 → Nat → Nat
  | _, 0 => 0
  | 13 :: 10 :: rest, offset + 1 => originalOffset rest offset + 2
  | _ :: rest, offset + 1 => originalOffset rest offset + 1
  | [], offset + 1 => offset + 1

theorem originalOffset_zero (bytes : List UInt8) : originalOffset bytes 0 = 0 := by
  rw [originalOffset]

section Offsets

variable {byte : UInt8} {rest : List UInt8}

theorem originalOffset_single (h : ∀ later, byte = 13 → rest = 10 :: later → False)
    (offset : Nat) :
    originalOffset (byte :: rest) (offset + 1) = originalOffset rest offset + 1 := by
  rw [originalOffset]
  exact h

theorem drop_foldBytes (bytes : List UInt8) (offset : Nat) :
    (foldBytes bytes).drop offset = foldBytes (bytes.drop (originalOffset bytes offset)) := by
  fun_induction originalOffset bytes offset with
  | case1 => rfl
  | case2 rest offset ih => exact ih
  | case3 byte rest offset hsingle ih =>
      rw [foldBytes_single hsingle]
      exact ih
  | case4 => simp [foldBytes]

theorem take_foldBytes (bytes : List UInt8) (offset : Nat) :
    (foldBytes bytes).take offset = foldBytes (bytes.take (originalOffset bytes offset)) := by
  fun_induction originalOffset bytes offset with
  | case1 => rfl
  | case2 rest offset ih =>
      rw [foldBytes, List.take_succ_cons, ih]
      rfl
  | case3 byte rest offset hsingle ih =>
      rw [foldBytes_single hsingle, List.take_succ_cons, ih, List.take_succ_cons, foldBytes_single]
      intro later hreturn hfeed
      obtain ⟨tail, hrest⟩ := List.take_prefix (originalOffset rest offset) rest
      rw [hfeed] at hrest
      exact hsingle (later ++ tail) hreturn hrest.symm
  | case4 => simp [foldBytes]

theorem originalOffset_add (bytes : List UInt8) (first second : Nat) :
    originalOffset bytes (first + second) = originalOffset bytes first +
      originalOffset (bytes.drop (originalOffset bytes first)) second := by
  fun_induction originalOffset bytes first with
  | case1 => simp
  | case2 rest offset ih =>
      rw [Nat.succ_add, originalOffset, ih]
      simp only [List.drop_succ_cons]
      omega
  | case3 byte rest offset hsingle ih =>
      rw [Nat.succ_add, originalOffset_single hsingle, ih, List.drop_succ_cons]
      omega
  | case4 offset =>
      cases second with
      | zero => rfl
      | succ second => simp [originalOffset, Nat.add_assoc]

theorem originalOffset_mono (bytes : List UInt8) {first second : Nat} (h : first ≤ second) :
    originalOffset bytes first ≤ originalOffset bytes second := by
  obtain ⟨offset, rfl⟩ := Nat.exists_eq_add_of_le h
  rw [originalOffset_add]
  exact Nat.le_add_right _ _

/-- What stands between two offsets is folded on its own. -/
theorem slice_foldBytes (bytes : List UInt8) (start stop : Nat) :
    ((foldBytes bytes).take stop).drop start =
      foldBytes ((bytes.take (originalOffset bytes stop)).drop (originalOffset bytes start)) := by
  rcases Nat.le_total start stop with hle | hle
  · obtain ⟨width, rfl⟩ := Nat.exists_eq_add_of_le hle
    rw [List.drop_take, Nat.add_sub_cancel_left, drop_foldBytes, take_foldBytes, originalOffset_add,
      List.drop_take, Nat.add_sub_cancel_left]
  · have hempty : ∀ {α : Type} (list : List α) {first second : Nat}, first ≤ second →
        (list.take first).drop second = [] := by
      intro α list first second hpast
      rw [List.drop_eq_nil_iff, List.length_take]
      omega
    rw [hempty _ hle, hempty _ (originalOffset_mono bytes hle), foldBytes]

end Offsets

end TaggedMarkup
