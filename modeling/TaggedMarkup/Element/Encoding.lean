import TaggedMarkup.Reference.Basic

/-!
# Encoded text

How text and attribute values go into a template once their character references are decoded. Text
that would be read as markup, and values that no quote can hold, become string literals instead.
-/

namespace TaggedMarkup

inductive EncodedText where
  | plain (text : Text)
  | literal (text : Text)
  deriving DecidableEq, Repr

inductive EncodedValue where
  | between (quote : Char) (value : Text)
  | literal (text : Text)
  deriving DecidableEq, Repr

def encodeText (raw : Text) : Except Reference.TooManyDigits EncodedText := do
  let text ← Reference.decode raw
  pure (if text.contains '<' then .literal text else .plain text)

/-- A value that holds a line break or both quotes becomes a literal; one that holds double quotes
is put between single ones. -/
def encodeValue (raw : Text) : Except Reference.TooManyDigits EncodedValue := do
  let value ← Reference.decode raw
  let double := value.contains '"'
  let single := value.contains '\''
  pure <|
    if value.contains '\n' || value.contains '\r' || (double && single) then .literal value
    else .between (if double then '\'' else '"') value

end TaggedMarkup
