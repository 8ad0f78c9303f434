import LinkPreview.Document.Forest

/-! Places in a document: an element together with what stands around it, so that its parents
and the elements before it can be reached. -/
set_option autoImplicit false

namespace LinkPreview

inductive Place where
  | document (content : Forest)
  /-- The first element in its parent; `last` if no other follows. -/
  | first (parent : Place) (tag : Tag) (content : Forest) (last : Bool)
  /-- An element that has another before it. -/
  | after (parent previous : Place) (tag : Tag) (content : Forest) (last : Bool)
  deriving DecidableEq, Repr

namespace Place

def content : Place → Forest
  | .document content | .first _ _ content _ | .after _ _ _ content _ => content

def tag? : Place → Option Tag
  | .document _ => none
  | .first _ tag _ _ | .after _ _ tag _ _ => some tag

/-- The document as a whole goes by a name that no element has. -/
def name (p : Place) : String := (p.tag?.map (·.name)).getD "[document]"

def attributes (p : Place) : List (String × Attribute) := (p.tag?.map (·.attributes)).getD []

def attribute? (p : Place) (key : String) : Option Attribute := p.attributes.lookup key

def parent? : Place → Option Place
  | .document _ => none
  | .first parent _ _ _ | .after parent _ _ _ _ => some parent

def ancestors : Place → List Place
  | .document _ => []
  | .first parent _ _ _ | .after parent _ _ _ _ => parent :: parent.ancestors

def previous? : Place → Option Place
  | .document _ | .first .. => none
  | .after _ previous _ _ _ => some previous

/-- The elements before in the same parent, from the nearest to the first. -/
def earlier : Place → List Place
  | .document _ | .first .. => []
  | .after _ previous _ _ _ => previous :: previous.earlier

def isFirst : Place → Bool
  | .document _ | .first .. => true
  | .after .. => false

def isLast : Place → Bool
  | .document _ => true
  | .first _ _ _ last | .after _ _ _ _ last => last

end Place

def Forest.places (parent : Place) (previous : Option Place) : Forest → List Place
  | .nil => []
  | .text _ rest | .comment _ rest => rest.places parent previous
  | .element tag children rest =>
    let last := !rest.hasElement
    let here := match previous with
      | none => Place.first parent tag children last
      | some p => Place.after parent p tag children last
    here :: (children.places here none ++ rest.places parent (some here))

namespace Place

def descendants (p : Place) : List Place := p.content.places p none

def find? (p : Place) (name : String) : Option Place := p.descendants.find? (·.name == name)

end Place
end LinkPreview
