import TaggedMarkup.Element.Basic

/-!
# Tag names

A tag name that begins with a small letter or holds a hyphen is a word of the markup; any other,
and every name with a dot, refers to something in scope. Names with a colon have no place in a
template.
-/

namespace TaggedMarkup.TagName

def isStatic (name : Text) : Bool :=
  !name.contains '.' && (name.head?.any (fun c => 'a' ≤ c && c ≤ 'z') || name.contains '-')

def classify (name : Text) (position : Position) : Except Problem TagName :=
  if name.contains ':' then .error (.namespacedTag name)
  else if isStatic name then .ok (.static name)
  else .ok (.dynamic ⟨[.code name], position⟩)

end TaggedMarkup.TagName
