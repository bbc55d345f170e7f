import TaggedMarkup.Text.Quoted

/-!
# String literals

A text as a string literal of a program, between double quotes. The quote, the backslash and the
control characters below U+0020 are escaped; every other character stands for itself.
-/

namespace TaggedMarkup

def literalChar (c : Char) : Text :=
  if c = '"' then ['\\', '"']
  else if c = '\\' then ['\\', '\\']
  else if c = '\n' then ['\\', 'n']
  else if c = '\r' then ['\\', 'r']
  else if c = '\t' then ['\\', 't']
  else if c = '\x08' then ['\\', 'b']
  else if c = '\x0c' then ['\\', 'f']
  else if c.toNat < 0x20 then '\\' :: 'u' :: Quoted.hexadecimal 4 c.toNat
  else [c]

def stringLiteral (text : Text) : Text :=
  '"' :: text.flatMap literalChar ++ ['"']

end TaggedMarkup
