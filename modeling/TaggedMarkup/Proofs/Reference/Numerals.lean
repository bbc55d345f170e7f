import Mathlib.Data.List.Induction
import Mathlib.Tactic.IntervalCases
import TaggedMarkup.Reference.Basic

/-!
# Numerals

A number is written in a base as zeros and its digits, the letters among them
in either case.  `number` reads exactly these back: some digits write `n`
exactly if there is at least one, each is a digit of the base, and `number`
gives `n`.
-/

namespace TaggedMarkup.Reference

/-- The digits write `n` in a base, with any number of zeros in front. -/
def Numeral (base n : Nat) (digits : Text) : Prop :=
  ∃ zeros, digits.map Char.toLower = List.replicate zeros '0' ++ Nat.toDigits base n

def IsDigitOf (base : Nat) (c : Char) : Prop :=
  isHexadecimal c = true ∧ digitValue c < base

/-! ## Digits -/

theorem isDecimal_iff {c : Char} : isDecimal c = true ↔ 48 ≤ c.toNat ∧ c.toNat ≤ 57 := by
  simp [isDecimal, Char.le_def, UInt32.le_iff_toNat_le]

theorem isHexadecimal_iff {c : Char} : isHexadecimal c = true ↔
    (48 ≤ c.toNat ∧ c.toNat ≤ 57) ∨ (97 ≤ c.toNat ∧ c.toNat ≤ 102) ∨
      (65 ≤ c.toNat ∧ c.toNat ≤ 70) := by
  simp [isHexadecimal, isDecimal_iff, Char.le_def, UInt32.le_iff_toNat_le, or_assoc]

theorem digitValue_eq {c : Char} (h : isHexadecimal c = true) : digitValue c =
    if c.toNat ≤ 57 then c.toNat - 48 else if c.toNat ≤ 70 then c.toNat - 55 else c.toNat - 87 := by
  have hletter : 'a' ≤ c ↔ 97 ≤ c.toNat := by simp [Char.le_def, UInt32.le_iff_toNat_le]
  have hzero : '0'.toNat = 48 := rfl
  have hlower : 'a'.toNat = 97 := rfl
  have hupper : 'A'.toNat = 65 := rfl
  rw [isHexadecimal_iff] at h
  simp only [digitValue, isDecimal_iff, hletter, hzero, hlower, hupper]
  split_ifs <;> omega

theorem isDigitOf_ten_iff {c : Char} : IsDigitOf 10 c ↔ isDecimal c = true := by
  rw [IsDigitOf]
  constructor
  · rintro ⟨hdigit, hvalue⟩
    rw [digitValue_eq hdigit] at hvalue
    rw [isHexadecimal_iff] at hdigit
    rw [isDecimal_iff]
    split_ifs at hvalue <;> omega
  · intro hdecimal
    have hdigit : isHexadecimal c = true := by simp [isHexadecimal, hdecimal]
    refine ⟨hdigit, ?_⟩
    rw [isDecimal_iff] at hdecimal
    rw [digitValue_eq hdigit, if_pos hdecimal.2]
    omega

theorem isDigitOf_sixteen_iff {c : Char} : IsDigitOf 16 c ↔ isHexadecimal c = true := by
  refine ⟨And.left, fun hdigit => ⟨hdigit, ?_⟩⟩
  rw [digitValue_eq hdigit]
  rw [isHexadecimal_iff] at hdigit
  split_ifs <;> omega

theorem toNat_toLower (c : Char) :
    c.toLower.toNat = if 65 ≤ c.toNat ∧ c.toNat ≤ 90 then c.toNat + 32 else c.toNat := by
  have hupper : (c.val ≥ 'A'.val ∧ c.val ≤ 'Z'.val) ↔ 65 ≤ c.toNat ∧ c.toNat ≤ 90 := by
    simp [UInt32.le_iff_toNat_le]
  by_cases h : 65 ≤ c.toNat ∧ c.toNat ≤ 90
  · have hlower : c.toLower.toNat = (c.val + ('a'.val - 'A'.val)).toNat :=
      congrArg Char.toNat (dif_pos (hupper.mpr h))
    rw [if_pos h, hlower]
    change (c.val + ('a'.val - 'A'.val)).toNat = c.val.toNat + 32
    have hstep : ('a'.val - 'A'.val).toNat = 32 := rfl
    have hsmall : c.val.toNat ≤ 90 := h.2
    rw [UInt32.toNat_add, hstep, Nat.mod_eq_of_lt (by omega)]
  · have hlower : c.toLower = c := dif_neg fun hc => h (hupper.mp hc)
    rw [if_neg h, hlower]

theorem toNat_digitChar {d : Nat} (hd : d < 16) :
    d.digitChar.toNat = if d < 10 then d + 48 else d + 87 := by
  interval_cases d <;> rfl

theorem toLower_eq_digitChar_iff {c : Char} {d : Nat} (hd : d < 16) :
    c.toLower = d.digitChar ↔ isHexadecimal c = true ∧ digitValue c = d := by
  have hcode : c.toLower = d.digitChar ↔
      (if 65 ≤ c.toNat ∧ c.toNat ≤ 90 then c.toNat + 32 else c.toNat) =
        if d < 10 then d + 48 else d + 87 := by
    rw [← Char.toNat_inj, toNat_toLower, toNat_digitChar hd]
  rw [hcode]
  constructor
  · intro heq
    have hdigit : isHexadecimal c = true := by
      rw [isHexadecimal_iff]
      split_ifs at heq <;> omega
    refine ⟨hdigit, ?_⟩
    rw [digitValue_eq hdigit]
    split_ifs at heq ⊢ <;> omega
  · rintro ⟨hdigit, rfl⟩
    rw [digitValue_eq hdigit] at hd ⊢
    rw [isHexadecimal_iff] at hdigit
    split_ifs at hd ⊢ <;> omega

/-! ## Numbers -/

section Base

variable {base : Nat} (hbase : 1 < base) (hsixteen : base ≤ 16)

include hbase hsixteen in
/-- The last digit of a numeral, and the numeral before it. -/
theorem numeral_concat_iff {n : Nat} {digits : Text} {c : Char} :
    Numeral base n (digits ++ [c]) ↔ IsDigitOf base c ∧
      ((digits = [] ∧ n = digitValue c) ∨
        ∃ m, Numeral base m digits ∧ n = base * m + digitValue c) := by
  constructor
  · rintro ⟨zeros, heq⟩
    rw [List.map_append, List.map_singleton] at heq
    rcases Nat.lt_or_ge n base with hn | hn
    · -- one digit writes the number, so there is nothing but zeros before it
      rw [Nat.toDigits_of_lt_base hn] at heq
      obtain ⟨hfront, hlast⟩ := List.append_inj' heq rfl
      obtain ⟨hdigit, rfl⟩ := (toLower_eq_digitChar_iff (by omega)).mp (List.singleton_inj.mp hlast)
      refine ⟨⟨hdigit, hn⟩, ?_⟩
      cases zeros with
      | zero => exact .inl ⟨List.map_eq_nil_iff.mp hfront, rfl⟩
      | succ zeros =>
          refine .inr ⟨0, ⟨zeros, ?_⟩, by simp⟩
          rw [hfront, Nat.toDigits_zero, List.replicate_succ']
    · rw [Nat.toDigits_of_base_le hbase hn, ← List.append_assoc] at heq
      obtain ⟨hfront, hlast⟩ := List.append_inj' heq rfl
      have hmod : n % base < base := Nat.mod_lt n (by omega)
      obtain ⟨hdigit, hvalue⟩ :=
        (toLower_eq_digitChar_iff (by omega)).mp (List.singleton_inj.mp hlast)
      refine ⟨⟨hdigit, by omega⟩, .inr ⟨n / base, ⟨zeros, hfront⟩, ?_⟩⟩
      rw [hvalue, Nat.div_add_mod]
  · rintro ⟨⟨hdigit, hvalue⟩, hfront⟩
    have hlast : c.toLower = (digitValue c).digitChar :=
      (toLower_eq_digitChar_iff (by omega)).mpr ⟨hdigit, rfl⟩
    rcases hfront with ⟨rfl, rfl⟩ | ⟨m, ⟨zeros, heq⟩, rfl⟩
    · exact ⟨0, by simp [hlast, Nat.toDigits_of_lt_base hvalue]⟩
    · rcases Nat.eq_zero_or_pos m with rfl | hm
      · refine ⟨zeros + 1, ?_⟩
        rw [List.map_append, heq, List.map_singleton, hlast, Nat.mul_zero, Nat.zero_add,
          Nat.toDigits_of_lt_base hvalue, Nat.toDigits_zero, List.replicate_succ']
      · refine ⟨zeros, ?_⟩
        rw [List.map_append, heq, List.map_singleton, hlast,
          ← Nat.toDigits_append_toDigits hbase hm hvalue, Nat.toDigits_of_lt_base hvalue,
          List.append_assoc]

theorem number_concat (base : Nat) (digits : Text) (c : Char) :
    number base (digits ++ [c]) = base * number base digits + digitValue c := by
  rw [number, List.foldl_append, List.foldl_cons, List.foldl_nil, ← number, Nat.mul_comm]

include hbase hsixteen in
/-- Digits write a number exactly if `number` reads it from them. -/
theorem numeral_iff {n : Nat} {digits : Text} :
    Numeral base n digits ↔
      digits ≠ [] ∧ (∀ d ∈ digits, IsDigitOf base d) ∧ number base digits = n := by
  induction digits using List.reverseRecOn generalizing n with
  | nil =>
      refine iff_of_false ?_ (fun h => h.1 rfl)
      rintro ⟨zeros, heq⟩
      exact Nat.toDigits_ne_nil (List.append_eq_nil_iff.mp heq.symm).2
  | append_singleton digits c ih =>
      rw [numeral_concat_iff hbase hsixteen, number_concat]
      constructor
      · rintro ⟨hdigit, ⟨rfl, rfl⟩ | ⟨m, hnumeral, rfl⟩⟩
        · simpa [number] using hdigit
        · obtain ⟨-, hdigits, rfl⟩ := ih.mp hnumeral
          refine ⟨by simp, ?_, rfl⟩
          intro d hmem
          rcases List.mem_append.mp hmem with hmem | hmem
          · exact hdigits d hmem
          · rwa [List.mem_singleton.mp hmem]
      · rintro ⟨-, hdigits, rfl⟩
        refine ⟨hdigits c (by simp), ?_⟩
        by_cases hnil : digits = []
        · exact .inl ⟨hnil, by simp [hnil, number]⟩
        · have hfront : ∀ d ∈ digits, IsDigitOf base d :=
            fun d hmem => hdigits d (List.mem_append_left [c] hmem)
          exact .inr ⟨number base digits, ih.mpr ⟨hnil, hfront, rfl⟩, rfl⟩

end Base

theorem numeral_ten_iff {n : Nat} {digits : Text} : Numeral 10 n digits ↔
    digits ≠ [] ∧ (∀ d ∈ digits, isDecimal d = true) ∧ number 10 digits = n := by
  simp only [numeral_iff (show 1 < 10 by decide) (by decide), isDigitOf_ten_iff]

theorem numeral_sixteen_iff {n : Nat} {digits : Text} : Numeral 16 n digits ↔
    digits ≠ [] ∧ (∀ d ∈ digits, isHexadecimal d = true) ∧ number 16 digits = n := by
  simp only [numeral_iff (show 1 < 16 by decide) (by decide), isDigitOf_sixteen_iff]

end TaggedMarkup.Reference
