import TaggedMarkup.Text.Basic

/-!
# UTF-8

Text as bytes and back. Reading is strict: it takes the shortest form of each character only, and
names the first bytes that are not one.
-/

namespace TaggedMarkup.Utf8

def encode (text : Text) : List UInt8 :=
  text.flatMap String.utf8EncodeChar

@[simp] theorem encode_nil : encode [] = [] := rfl

@[simp] theorem encode_append (text rest : Text) :
    encode (text ++ rest) = encode text ++ encode rest := by
  simp [encode]

/-! ## Reading -/

inductive Fault where
  | badStart
  | badContinuation
  | truncated
  deriving DecidableEq, Repr

/-- Bytes that cannot be read: why, where they begin, their first byte and how many they are. -/
structure Error where
  fault : Fault
  position : Nat
  lead : UInt8
  width : Nat
  deriving DecidableEq, Repr

/-- A character of which some bytes have been read. -/
structure Begun where
  owed : Nat
  low : UInt8
  high : UInt8
  code : Nat
  position : Nat
  lead : UInt8
  seen : Nat
  deriving DecidableEq, Repr

def begin? (position : Nat) (lead : UInt8) : Option Begun :=
  if 0xC2 ≤ lead ∧ lead ≤ 0xDF then
    some ⟨1, 0x80, 0xBF, lead.toNat - 0xC0, position, lead, 1⟩
  -- the second byte is bounded where the shortest form or a surrogate would be passed
  else if lead = 0xE0 then some ⟨2, 0xA0, 0xBF, 0, position, lead, 1⟩
  else if lead = 0xED then some ⟨2, 0x80, 0x9F, 0xD, position, lead, 1⟩
  else if 0xE1 ≤ lead ∧ lead ≤ 0xEF then
    some ⟨2, 0x80, 0xBF, lead.toNat - 0xE0, position, lead, 1⟩
  else if lead = 0xF0 then some ⟨3, 0x90, 0xBF, 0, position, lead, 1⟩
  else if lead = 0xF4 then some ⟨3, 0x80, 0x8F, 4, position, lead, 1⟩
  else if 0xF1 ≤ lead ∧ lead ≤ 0xF3 then
    some ⟨3, 0x80, 0xBF, lead.toNat - 0xF0, position, lead, 1⟩
  else none

/-- Reads bytes that stand at `position`, perhaps inside a character. -/
def decodeFrom : Nat → Option Begun → List UInt8 → Except Error Text
  | _, none, [] => .ok []
  | _, some begun, [] => .error ⟨.truncated, begun.position, begun.lead, begun.seen⟩
  | position, none, byte :: bytes =>
    if byte < 0x80 then
      (decodeFrom (position + 1) none bytes).map (Char.ofNat byte.toNat :: ·)
    else
      match begin? position byte with
      | none => .error ⟨.badStart, position, byte, 1⟩
      | some begun => decodeFrom (position + 1) (some begun) bytes
  | position, some begun, byte :: bytes =>
    if begun.low ≤ byte ∧ byte ≤ begun.high then
      let code := begun.code * 64 + (byte.toNat - 0x80)
      if begun.owed ≤ 1 then
        (decodeFrom (position + 1) none bytes).map (Char.ofNat code :: ·)
      else
        decodeFrom (position + 1)
          (some { begun with
            owed := begun.owed - 1, low := 0x80, high := 0xBF, code, seen := begun.seen + 1 })
          bytes
    else
      .error ⟨.badContinuation, begun.position, begun.lead, begun.seen⟩

def decode (bytes : List UInt8) : Except Error Text :=
  decodeFrom 0 none bytes

/-! ## Messages -/

def Fault.message : Fault → String
  | .badStart => "invalid start byte"
  | .badContinuation => "invalid continuation byte"
  | .truncated => "unexpected end of data"

private def hexByte (byte : UInt8) : String :=
  let digits := Nat.toDigits 16 byte.toNat
  String.ofList (List.replicate (2 - digits.length) '0' ++ digits)

def Error.message (error : Error) : String :=
  let place :=
    if error.width = 1 then s!"byte 0x{hexByte error.lead} in position {error.position}"
    else s!"bytes in position {error.position}-{error.position + error.width - 1}"
  s!"'utf-8' codec can't decode {place}: {error.fault.message}"

end TaggedMarkup.Utf8
