import TaggedMarkup.Reference.Names

/-!
# Character references

`&name;`, `&#digits;` and `&#xdigits;` stand for characters. Only a reference that ends in `;` is
one, and one that names nothing is left as written: an unknown name, a surrogate, or a number past
the last code point. `decode` replaces every reference of a text.
-/

namespace TaggedMarkup

inductive Reference where
  | named (name : Text)
  | decimal (digits : Text)
  /-- `&#xdigits;`, with the mark `x` or `X` it was written with. -/
  | hexadecimal (mark : Char) (digits : Text)
  deriving DecidableEq, Repr

namespace Reference

structure TooManyDigits where
  count : Nat
  deriving DecidableEq, Repr

/-- The most digits a decimal reference may have, leading zeros included. -/
def digitLimit : Nat := 4300

def TooManyDigits.message (error : TooManyDigits) : String :=
  s!"Exceeds the limit ({digitLimit} digits) for integer string conversion: value has " ++
    s!"{error.count} digits; use sys.set_int_max_str_digits() to increase the limit"

/-! ## Character classes -/

def isLetter (c : Char) : Bool :=
  ('a' ≤ c && c ≤ 'z') || ('A' ≤ c && c ≤ 'Z')

def isDecimal (c : Char) : Bool :=
  '0' ≤ c && c ≤ '9'

def isHexadecimal (c : Char) : Bool :=
  isDecimal c || ('a' ≤ c && c ≤ 'f') || ('A' ≤ c && c ≤ 'F')

def digitValue (c : Char) : Nat :=
  if isDecimal c then c.toNat - '0'.toNat
  else if 'a' ≤ c then c.toNat - 'a'.toNat + 10
  else c.toNat - 'A'.toNat + 10

def number (base : Nat) (digits : Text) : Nat :=
  digits.foldl (fun value digit => value * base + digitValue digit) 0

/-! ## Values -/

def character? (code : Nat) : Option Text :=
  if 0x10FFFF < code ∨ (0xD800 ≤ code ∧ code ≤ 0xDFFF) then none else some [Char.ofNat code]

def value? : Reference → Except TooManyDigits (Option Text)
  | .named name => .ok (namedCharacters? name)
  | .decimal digits =>
    if digitLimit < digits.length then .error ⟨digits.length⟩
    else .ok (character? (number 10 digits))
  -- only decimal numbers are limited
  | .hexadecimal _ digits => .ok (character? (number 16 digits))

def written : Reference → Text
  | .named name => '&' :: name ++ [';']
  | .decimal digits => '&' :: '#' :: digits ++ [';']
  | .hexadecimal mark digits => '&' :: '#' :: mark :: digits ++ [';']

/-! ## Reading -/

def readRun? (p : Char → Bool) (text : Text) : Option (Text × Text) :=
  match text.takeWhile p, text.dropWhile p with
  | c :: run, ';' :: rest => some (c :: run, rest)
  | _, _ => none

/-- Takes the reference whose `&` has just been read. -/
def read? : Text → Option (Reference × Text)
  | '#' :: mark :: rest =>
    if mark = 'x' ∨ mark = 'X' then
      (readRun? isHexadecimal rest).map fun (digits, rest) => (.hexadecimal mark digits, rest)
    else
      (readRun? isDecimal (mark :: rest)).map fun (digits, rest) => (.decimal digits, rest)
  | c :: rest =>
    if isLetter c then
      (readRun? (fun d => isLetter d || isDecimal d) (c :: rest)).map
        fun (name, rest) => (.named name, rest)
    else none
  | [] => none

theorem eq_append_of_readRun? {p : Char → Bool} {text run rest : Text}
    (h : readRun? p text = some (run, rest)) : text = run ++ ';' :: rest := by
  unfold readRun? at h
  split at h
  · rename_i c cs after htake hdrop
    simp only [Option.some.injEq, Prod.mk.injEq] at h
    obtain ⟨rfl, rfl⟩ := h
    rw [← htake, ← hdrop, List.takeWhile_append_dropWhile]
  · simp at h

theorem eq_written_of_read? {text rest : Text} {reference : Reference}
    (h : read? text = some (reference, rest)) : '&' :: text = reference.written ++ rest := by
  unfold read? at h
  split at h
  · split at h
    · obtain ⟨⟨digits, after⟩, hrun, heq⟩ := Option.map_eq_some_iff.1 h
      simp only [Prod.mk.injEq] at heq
      obtain ⟨rfl, rfl⟩ := heq
      simp [written, eq_append_of_readRun? hrun]
    · obtain ⟨⟨digits, after⟩, hrun, heq⟩ := Option.map_eq_some_iff.1 h
      simp only [Prod.mk.injEq] at heq
      obtain ⟨rfl, rfl⟩ := heq
      simp [written, eq_append_of_readRun? hrun]
  · split at h
    · obtain ⟨⟨name, after⟩, hrun, heq⟩ := Option.map_eq_some_iff.1 h
      simp only [Prod.mk.injEq] at heq
      obtain ⟨rfl, rfl⟩ := heq
      simp [written, eq_append_of_readRun? hrun]
    · simp at h
  · simp at h

theorem length_lt_of_read? {text rest : Text} {reference : Reference}
    (h : read? text = some (reference, rest)) : rest.length < text.length := by
  have hlength := congrArg List.length (eq_written_of_read? h)
  cases reference <;> simp [written] at hlength <;> omega

/-! ## Decoding -/

def decode : Text → Except TooManyDigits Text
  | [] => .ok []
  | c :: rest =>
    if c = '&' then
      match _h : read? rest with
      | some (reference, after) => do
        let value ← reference.value?
        let decoded ← decode after
        -- what stands for nothing stays as it is written
        pure (value.getD reference.written ++ decoded)
      | none => do
        let decoded ← decode rest
        pure (c :: decoded)
    else do
      let decoded ← decode rest
      pure (c :: decoded)
termination_by text => text.length
decreasing_by
  · have := length_lt_of_read? (by assumption)
    simp only [List.length_cons]
    omega
  · simp
  · simp

end Reference

end TaggedMarkup
