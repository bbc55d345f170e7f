import TaggedMarkup.Element.Basic
import TaggedMarkup.Element.Encoding
import TaggedMarkup.Element.TextRun
import TaggedMarkup.Failure
import TaggedMarkup.Settings
import TaggedMarkup.Template.Buffer

/-!
# Segments of a tree

Compiling a tree writes it as markup into one template. Elements that are children share the
template of their parent; a tree inside an expression becomes a hole with a template of its own.
What a node writes is the list of its segments up to the first failure, so a failing attribute still
shows what it had written.
-/

namespace TaggedMarkup

structure Written where
  segments : List Segment := []
  failure : Option Failure := none

namespace Written

def text (text : Text) : Written := ⟨[.text text], none⟩

def fail (failure : Failure) : Written := ⟨[], some failure⟩

def hole : Except Failure Hole → Written
  | .ok hole => ⟨[.hole hole], none⟩
  | .error failure => fail failure

/-- Nothing is written after a failure. -/
def append (first second : Written) : Written :=
  match first.failure with
  | some failure => ⟨first.segments, some failure⟩
  | none => ⟨first.segments ++ second.segments, second.failure⟩

instance : Append Written := ⟨append⟩

def toTemplate (tag : Text) (written : Written) : Except Failure Template :=
  match written.failure with
  | some failure => .error failure
  | none =>
    match (Buffer.empty.writeAll written.segments).build? tag with
    | .ok (template, _) => .ok template
    | .error error => .error (.miscounted error)

@[simp] theorem toTemplate_stopped (tag : Text) (segments : List Segment) (failure : Failure) :
    toTemplate tag ⟨segments, some failure⟩ = .error failure := rfl

@[simp] theorem toTemplate_complete (tag : Text) (segments : List Segment) :
    toTemplate tag ⟨segments, none⟩ = .ok (Template.ofSegments tag segments) := by
  have heven : Buffer.empty.IsEven := rfl
  simp only [toTemplate, (heven.writeAll segments).build?_eq]
  rfl

end Written

/-- Whether a child writes anything: comments and white space that wraps lines do not. -/
def Child.hasContent : Child → Bool
  | .empty => false
  | .text raw => !(collapse raw).isEmpty
  | _ => true

def writeText (raw : Text) : Written :=
  match encodeText (collapse raw) with
  | .ok (.plain text) => .text text
  | .ok (.literal text) => .hole (.ok (.literal text))
  | .error error => .fail (.tooManyDigits error)

def writeString (name value : Text) : Written :=
  match encodeValue value with
  | .ok (.between quote value) => .text (name ++ ['=']) ++ .text (quote :: value ++ [quote])
  | .ok (.literal text) => .text (name ++ ['=']) ++ .hole (.ok (.literal text))
  -- the name is not written before a value that cannot be
  | .error error => .fail (.tooManyDigits error)

mutual

def compile (settings : Settings) : Tree → Except Failure Template
  | .element element => (writeElement settings element).toTemplate settings.tag
  | .fragment children _ => (writeChildren settings children).toTemplate settings.tag
  | .blank => .error (.blank .tree)

def compileExpression (settings : Settings) : Expression → Except Failure Hole
  -- an expression that is one tree is printed as a template of its own
  | ⟨[.tree tree], _⟩ => (compile settings tree).map .template
  | ⟨parts, _⟩ => (compileParts settings parts).map .source

def compileParts (settings : Settings) : List Part → Except Failure (List SourcePart)
  | [] => .ok []
  | part :: parts => do
    let compiled ← compilePart settings part
    let others ← compileParts settings parts
    pure (compiled :: others)

def compilePart (settings : Settings) : Part → Except Failure SourcePart
  | .code text => .ok (.code text)
  | .tree tree => (compile settings tree).map .template

def writeElement (settings : Settings) : Element → Written
  | ⟨name, attributes, children, _, _⟩ =>
    let opening := .text ['<'] ++ writeName settings name ++ writeAttributes settings attributes
    if children.any Child.hasContent || settings.explicitClose then
      opening ++ .text ['>'] ++ writeChildren settings children ++
        .text ['<', '/'] ++ writeName settings name ++ .text ['>']
    else
      opening ++ .text ['/', '>']

def writeName (settings : Settings) : TagName → Written
  | .static name => .text name
  | .dynamic expression => .hole (compileExpression settings expression)
  | .blank => .fail (.blank .name)

def writeAttributes (settings : Settings) : List Attribute → Written
  | [] => {}
  | first :: attributes =>
    writeAttribute settings first ++ writeAttributes settings attributes

def writeAttribute (settings : Settings) : Attribute → Written
  | .flag name => .text [' '] ++ .text name
  | .string name value _ => .text [' '] ++ writeString name value
  | .expression name none position =>
    .text [' '] ++ .fail (.reported (.located (.emptyAttribute name) [] position))
  | .expression name (some expression) _ =>
    .text [' '] ++ .text (name ++ ['=']) ++ .hole (compileExpression settings expression)
  | .spread expression =>
    .text [' '] ++ .text ['.', '.', '.'] ++ .hole (compileExpression settings expression)
  | .blank => .text [' '] ++ .fail (.blank .attr)

def writeChildren (settings : Settings) : List Child → Written
  | [] => {}
  | child :: children => writeChild settings child ++ writeChildren settings children

def writeChild (settings : Settings) : Child → Written
  | .text raw => writeText raw
  | .expression expression => .hole (compileExpression settings expression)
  | .element element => writeElement settings element
  | .empty => {}
  | .spread ⟨_, position⟩ => .fail (.reported (.located .spreadChild [] position))
  | .blank => .fail (.blank .child)

end

end TaggedMarkup
