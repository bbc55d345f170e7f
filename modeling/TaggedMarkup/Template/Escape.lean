import TaggedMarkup.Text.Basic

/-!
# Escaped text

The literal parts of a template are written between backticks. A backslash, a backtick, and a dollar
sign before an opening brace are escaped there; nothing else is.
-/

namespace TaggedMarkup

/-- Writes a text so that it stands for itself inside a template. -/
def escape : Text → Text
  | [] => []
  | '\\' :: rest => '\\' :: '\\' :: escape rest
  | '\x60' :: rest => '\\' :: '\x60' :: escape rest
  | '$' :: '\x7b' :: rest => '\\' :: '$' :: '\x7b' :: escape rest
  | c :: rest => c :: escape rest

end TaggedMarkup
