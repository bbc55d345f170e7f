import TaggedMarkup.Text.Basic

/-!
# Settings

What a compilation can be told: the tag of the templates it writes, and whether elements without
children are closed explicitly. `Settings.ofOptions?` reads them from named options.
-/

namespace TaggedMarkup

structure Settings where
  tag : Text := ['h', 't', 'm', 'l']
  /-- Write `<p></p>` and not `<p/>` for an element without children. -/
  explicitClose : Bool := false
  tag_ne_nil : tag ≠ [] := by decide

instance : Inhabited Settings := ⟨{}⟩

namespace Settings

inductive Error where
  | emptyTag
  | unknownOptions (names : List Text)
  deriving DecidableEq, Repr

def Error.message : Error → String
  | .emptyTag => "tag identifier must not be empty"
  | .unknownOptions names =>
    "Unknown option(s): " ++ String.ofList (joinWith [',', ' '] names)

def make? (tag : Text) (explicitClose : Bool) : Except Error Settings :=
  if h : tag ≠ [] then .ok ⟨tag, explicitClose, h⟩ else .error .emptyTag

/-! ## Named options -/

inductive Value where
  | nothing
  | truth (value : Bool)
  | number (isZero : Bool)
  | text (value : Text)
  | collection (size : Nat)
  deriving DecidableEq, Repr

namespace Value

def isTrue : Value → Bool
  | .nothing => false
  | .truth value => value
  | .number isZero => !isZero
  | .text value => !value.isEmpty
  | .collection size => size != 0

def asText : Value → Text
  | .text value => value
  | _ => []

end Value

private def tagName : Text := "tag".toList
private def htmlName : Text := "html".toList
private def explicitCloseName : Text := "force_explicit_close".toList

def isKnownOption (name : Text) : Bool :=
  name == tagName || name == htmlName || name == explicitCloseName

def unknownOptions (options : List (Text × Value)) : List Text :=
  ((options.map (·.1)).filter (!isKnownOption ·)).mergeSort textLe

/-- Reads settings from options. `html` asks for explicit closing too, but is heard only where
`force_explicit_close` is not given. -/
def ofOptions? (options : List (Text × Value)) : Except Error Settings :=
  match unknownOptions options with
  | [] =>
    let explicitClose :=
      match options.lookup explicitCloseName, options.lookup htmlName with
      | some value, _ => value.isTrue
      | none, some value => value.isTrue
      | none, none => false
    match options.lookup tagName with
    | some value => make? value.asText explicitClose
    | none => .ok { explicitClose }
  | names => .error (.unknownOptions names)

end Settings

end TaggedMarkup
