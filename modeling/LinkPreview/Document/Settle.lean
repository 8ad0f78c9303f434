import LinkPreview.Document.Forest

/-! How a document is held after reading: neighbouring texts are one text, runs of blanks
between nodes are short, and attributes that list words are lists. -/
set_option autoImplicit false

namespace LinkPreview

def Attribute.listsWords (tag key : String) : Bool :=
  match key with
  | "class" | "accesskey" | "dropzone" => true
  | "rel" => tag == "a" || tag == "link" || tag == "area"
  | "rev" => tag == "a" || tag == "link"
  | "headers" => tag == "td" || tag == "th"
  | "accept-charset" => tag == "form"
  | "archive" => tag == "object"
  | "sizes" => tag == "icon"
  | "sandbox" => tag == "iframe"
  | "for" => tag == "output"
  | _ => false

def Attribute.ofText (tag key value : String) : Attribute :=
  if listsWords tag key then .words (Text.wordsOf value) else .single value

def Tag.settle (tag : Tag) : Tag :=
  ⟨tag.name, tag.attributes.map fun (key, value) => (key, .ofText tag.name key value.text)⟩

def Tag.keepsBlanks (tag : Tag) : Bool := tag.name == "pre" || tag.name == "textarea"

namespace Forest

def isLayout (c : Char) : Bool :=
  c == ' ' || c == '\n' || c == '\t' || c == '\x0C' || c == '\r'

/-- A text of spaces and line breaks only is one line break, or one space if it has none. -/
def shorten (keep : Bool) (s : String) : String :=
  if !keep && s.toList.all isLayout then
    if s.toList.contains '\n' then "\n" else " "
  else s

def withText (keep : Bool) (s : String) (rest : Forest) : Forest :=
  if s.isEmpty then rest else .text (shorten keep s) rest

def settleAfter (keep : Bool) (pending : String) : Forest → Forest
  | .nil => withText keep pending .nil
  | .text s rest => rest.settleAfter keep (pending ++ s)
  | .comment s rest => withText keep pending (.comment s (rest.settleAfter keep ""))
  | .element tag children rest =>
    withText keep pending (.element tag.settle
      (children.settleAfter (keep || tag.keepsBlanks) "") (rest.settleAfter keep ""))

def settle (f : Forest) : Forest := f.settleAfter false ""

end Forest
end LinkPreview
