import LinkPreview.Text.Blank

set_option autoImplicit false

namespace LinkPreview

inductive Attribute where
  | single (text : String)
  | words (ws : List String)
  deriving DecidableEq, Repr

def Attribute.text : Attribute → String
  | .single text => text
  | .words ws => Text.unwords ws

structure Tag where
  name : String
  attributes : List (String × Attribute)
  deriving DecidableEq, Repr

inductive Forest where
  | nil
  | text (content : String) (rest : Forest)
  | comment (content : String) (rest : Forest)
  | element (tag : Tag) (children rest : Forest)
  deriving DecidableEq, Repr

namespace Forest

def append : Forest → Forest → Forest
  | .nil, more => more
  | .text s rest, more => .text s (rest.append more)
  | .comment s rest, more => .comment s (rest.append more)
  | .element tag children rest, more => .element tag children (rest.append more)

instance : Append Forest := ⟨append⟩

def reverseOnto : Forest → Forest → Forest
  | .nil, done => done
  | .text s rest, done => rest.reverseOnto (.text s done)
  | .comment s rest, done => rest.reverseOnto (.comment s done)
  | .element tag children rest, done => rest.reverseOnto (.element tag children done)

def reverse (f : Forest) : Forest := f.reverseOnto .nil

def hasElement : Forest → Bool
  | .nil => false
  | .text _ rest | .comment _ rest => rest.hasElement
  | .element .. => true

end Forest
end LinkPreview
