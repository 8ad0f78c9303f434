import LinkPreview.Document.Place

/-! The text of an element. Text inside a script, a style sheet, a template or a ruby note is
set apart from the text that a reader sees. -/
set_option autoImplicit false

namespace LinkPreview

inductive TextKind where
  | plain
  | script
  | style
  | template
  | rubyText
  | rubyParenthesis
  deriving DecidableEq, Repr

def TextKind.ofTag? : String → Option TextKind
  | "script" => some .script
  | "style" => some .style
  | "template" => some .template
  | "rt" => some .rubyText
  | "rp" => some .rubyParenthesis
  | _ => none

def Forest.texts (wanted here : TextKind) : Forest → List String
  | .nil => []
  | .text s rest => if here = wanted then s :: rest.texts wanted here else rest.texts wanted here
  | .comment _ rest => rest.texts wanted here
  | .element tag children rest =>
    children.texts wanted ((TextKind.ofTag? tag.name).getD here) ++ rest.texts wanted here

namespace Place

/-- The kind of the text that stands at a place: that of the nearest element with a kind. -/
def textKind : Place → TextKind
  | .document _ => .plain
  | .first parent tag _ _ | .after parent _ tag _ _ =>
    (TextKind.ofTag? tag.name).getD parent.textKind

/-- An element that has a kind of text gathers that kind, and every other gathers plain text. -/
def text (p : Place) : String :=
  let wanted := ((p.tag?.bind fun tag => TextKind.ofTag? tag.name)).getD .plain
  String.join (p.content.texts wanted p.textKind)

end Place
end LinkPreview
