import TaggedMarkup.Text.Basic
import TaggedMarkup.Text.Hidden

/-!
# Quoted text

How a message shows a text: between single quotes, or between double quotes if it holds a single
quote and no double one. Inside, the quote and the backslash are escaped, line ends and tabs have
letters of their own, and other hidden characters are written by their code point.
-/

namespace TaggedMarkup.Quoted

/-- A code point in at least `width` hexadecimal digits. -/
def hexadecimal (width code : Nat) : Text :=
  let digits := Nat.toDigits 16 code
  List.replicate (width - digits.length) '0' ++ digits

def showChar (quote c : Char) : Text :=
  if c = quote ∨ c = '\\' then ['\\', c]
  else if c = '\n' then ['\\', 'n']
  else if c = '\r' then ['\\', 'r']
  else if c = '\t' then ['\\', 't']
  else if isHidden c then
    if c.toNat < 0x100 then '\\' :: 'x' :: hexadecimal 2 c.toNat
    else if c.toNat < 0x10000 then '\\' :: 'u' :: hexadecimal 4 c.toNat
    else '\\' :: 'U' :: hexadecimal 8 c.toNat
  else [c]

def quoteFor (text : Text) : Char :=
  if text.contains '\'' && !text.contains '"' then '"' else '\''

def quoted (text : Text) : String :=
  let quote := quoteFor text
  String.ofList (quote :: text.flatMap (showChar quote) ++ [quote])

end TaggedMarkup.Quoted
