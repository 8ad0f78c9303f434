import LinkPreview.Document.Settle
import LinkPreview.Markup.Implied
import LinkPreview.Markup.Token

set_option autoImplicit false

namespace LinkPreview.Markup

structure Level where
  tag : Tag
  nodes : Forest

/-- A document under way: the nodes done, in reverse order, and the open elements, innermost
first. End tags of as many misplaced start tags are still to be passed over. -/
structure Draft where
  nodes : Forest
  levels : List Level
  sawHead : Bool
  sawBody : Bool
  misplaced : Nat

namespace Draft

def blank : Draft := ⟨.nil, [], false, false, 0⟩

def names (d : Draft) : List String := d.levels.map (·.tag.name)

def add (d : Draft) (node : Forest → Forest) : Draft :=
  match d.levels with
  | [] => { d with nodes := node d.nodes }
  | level :: outer => { d with levels := { level with nodes := node level.nodes } :: outer }

def enter (d : Draft) (tag : Tag) : Draft :=
  { d with
    levels := ⟨tag, .nil⟩ :: d.levels
    sawHead := d.sawHead || tag.name == "head" || tag.name == "body"
    sawBody := d.sawBody || tag.name == "body" }

def leave (d : Draft) : Draft :=
  match d.levels with
  | [] => d
  | level :: outer =>
    { d with levels := outer }.add (.element level.tag level.nodes.reverse)

def leaveMany : Nat → Draft → Draft
  | 0, d => d
  | n + 1, d => leaveMany n d.leave

def endBefore (d : Draft) (name : String) : Draft :=
  leaveMany (d.names.takeWhile (endsBefore · name)).length d

def enterImplied (d : Draft) (name : String) : Draft := d.enter ⟨name, []⟩

def imply (d : Draft) (name : String) : Draft :=
  let d := if d.levels.isEmpty && name != "html" then d.enterImplied "html" else d
  if belongsToHead name && d.levels.length ≤ 1 then
    if d.sawHead then d else d.enterImplied "head"
  else if standsOutsideBody name || d.sawBody || d.names.contains "head" then d
  else d.enterImplied "body"

/-- A second document element or body, and a head that is not at its place, are passed over. -/
def isMisplaced (d : Draft) (name : String) : Bool :=
  (name == "html" && !d.levels.isEmpty) || (name == "head" && d.levels.length != 1) ||
    (name == "body" && d.names.contains "body")

def start (d : Draft) (tag : Tag) (closed : Bool) : Draft :=
  let d := (d.endBefore tag.name).imply tag.name
  if d.isMisplaced tag.name then { d with misplaced := d.misplaced + 1 }
  else if closed || isVoid tag.name then (d.enter tag).leave
  else d.enter tag

/-- An end tag ends its element and those inside, unless one of them is firmer. -/
def stop (d : Draft) (name : String) : Draft :=
  if 0 < d.misplaced && ["html", "head", "body"].contains name then
    { d with misplaced := d.misplaced - 1 }
  else
    let inner := d.names.takeWhile (· != name)
    if d.names.contains name && inner.all (firmness · ≤ firmness name) then
      leaveMany (inner.length + 1) d
    else d

def takesBlanks (d : Draft) : Bool := !d.levels.isEmpty || d.nodes.hasElement

def needsParagraph (d : Draft) : Bool :=
  match d.names with
  | [] => true
  | name :: _ => name == "html" || name == "head"

def addText (d : Draft) (content : String) : Draft :=
  if content.toList.all isSpace then
    if d.takesBlanks then d.add (.text content) else d
  else
    let d := if d.needsParagraph then ((d.endBefore "p").imply "p").enterImplied "p" else d
    d.add (.text content)

def step (d : Draft) : Token → Draft
  | .text content => d.addText (String.ofList content)
  | .comment content => d.add (.comment (String.ofList content))
  | .start tag closed => d.start tag closed
  | .stop name => d.stop name

def finish (d : Draft) : Forest := (leaveMany d.levels.length d).nodes.reverse

end Draft

def read (html : String) : Forest :=
  let html := if html.toList.head? = some '\uFEFF' then (html.drop 1).toString else html
  (((tokens html).foldl Draft.step .blank).finish).settle

end LinkPreview.Markup
