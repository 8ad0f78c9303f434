import LinkPreview.Fault
import LinkPreview.Selector.Lexeme

set_option autoImplicit false

namespace LinkPreview.Selector
open Text

/-- A selector list under way: the alternatives done, what the next element must be related to,
and the conditions on it so far. -/
structure Draft where
  done : Option Selector
  relation : Option Selector
  here : Option Selector

namespace Draft

def blank : Draft := ⟨none, none, none⟩

def require (d : Draft) (s : Selector) : Draft :=
  { d with here := some (match d.here with | none => s | some h => .both h s) }

def element? (d : Draft) : Option Selector :=
  d.here.map fun h => match d.relation with | none => h | some r => .both h r

def list? (d : Draft) : Option Selector :=
  d.element?.map fun s => match d.done with | none => s | some a => .either a s

def combine (d : Draft) : Option Combinator → Option Draft
  | none => d.list?.map fun s => ⟨some s, none, none⟩
  | some c => d.element?.map fun s => { d with relation := some (.related c s), here := none }

end Draft

def position? (name : List Char) : Option Selector :=
  if name = "first-child".toList then some .firstChild
  else if name = "last-child".toList then some .lastChild
  else if name = "only-child".toList then some (.both .firstChild .lastChild)
  else none

/-- Reads the units of a selector; `outer` holds the lists around an open parenthesis. -/
def ofLexemes (d : Draft) (outer : List Draft) : List Lexeme → Option Selector
  | [] => if outer.isEmpty then d.list? else none
  | .any :: more => if d.here.isSome then none else ofLexemes (d.require .any) outer more
  | .named name :: more =>
    if d.here.isSome then none else ofLexemes (d.require (.named name)) outer more
  | .identified id :: more => ofLexemes (d.require (.identified id)) outer more
  | .classed name :: more => ofLexemes (d.require (.classed name)) outer more
  | .attribute test :: more => ofLexemes (d.require (.attribute test)) outer more
  | .lacks test :: more => ofLexemes (d.require (.no (.attribute test))) outer more
  | .pseudo name :: more =>
    match position? name with
    | none => none
    | some s => ofLexemes (d.require s) outer more
  | .opening name :: more =>
    if name = "not".toList then ofLexemes .blank (d :: outer) more else none
  | .combinator c :: more =>
    match d.combine c with
    | none => none
    | some d => ofLexemes d outer more
  | .close :: more =>
    match d.list?, outer with
    | some s, o :: outer => ofLexemes (o.require (.no s)) outer more
    | _, _ => none

def read (css : String) : Except Fault Selector :=
  let cs := css.toList.map fun c => if c = '\x00' then '\uFFFD' else c
  match (Lexeme.readAll (Lexeme.skip cs)).bind (ofLexemes .blank []) with
  | none => .error .selectorSyntax
  | some s => .ok s

end LinkPreview.Selector
