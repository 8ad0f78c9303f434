import LinkPreview.Document.Place
import LinkPreview.Text.Case

set_option autoImplicit false

namespace LinkPreview

inductive Comparison where
  | present
  | equals
  | word
  | dash
  | starts
  | ends
  | contains
  deriving DecidableEq, Repr

structure AttributeTest where
  name : List Char
  comparison : Comparison
  value : List Char
  loose : Bool
  deriving DecidableEq, Repr

inductive Combinator where
  | descendant
  | child
  | next
  | following
  deriving DecidableEq, Repr

/-- A condition on a place. The condition `related c s` asks for a place that satisfies `s` and
that the combinator `c` leads from. -/
inductive Selector where
  | any
  | named (name : List Char)
  | identified (id : List Char)
  | classed (name : List Char)
  | attribute (test : AttributeTest)
  | firstChild
  | lastChild
  | both (a b : Selector)
  | either (a b : Selector)
  | no (a : Selector)
  | related (c : Combinator) (a : Selector)
  deriving DecidableEq, Repr

namespace Comparison
open Text

def rest? (eq : Char → Char → Bool) : List Char → List Char → Option (List Char)
  | [], cs => some cs
  | _ :: _, [] => none
  | w :: ws, c :: cs => if eq w c then rest? eq ws cs else none

/-- The end of a value, where one line break may still follow. -/
def isEnd (cs : List Char) : Bool := cs.isEmpty || cs == ['\n']

def someSuffix (p : List Char → Bool) : List Char → Bool
  | [] => p []
  | c :: cs => p (c :: cs) || someSuffix p cs

def separatesWords (c : Char) : Bool :=
  c == ' ' || c == '\t' || c == '\r' || c == '\n' || c == '\x0C'

/-- Whether a value passes. Nothing starts or ends with the empty text, contains it, or has it as
a word. -/
def holds (comparison : Comparison) (eq : Char → Char → Bool) (wanted value : List Char) : Bool :=
  match comparison with
  | .present => true
  | .equals => (rest? eq wanted value).any isEnd
  | .dash => (rest? eq wanted value).any fun r => isEnd r || r.head? == some '-'
  | .starts => !wanted.isEmpty && (rest? eq wanted value).isSome
  | .ends => !wanted.isEmpty && someSuffix (fun s => (rest? eq wanted s).any isEnd) value
  | .contains => !wanted.isEmpty && someSuffix (fun s => (rest? eq wanted s).isSome) value
  | .word =>
    !wanted.isEmpty && !wanted.any separatesWords &&
      (pieces separatesWords value).any fun p => (rest? eq wanted p).any List.isEmpty

end Comparison

/-- The test applies to the first attribute of its name; case does not matter in names. -/
def AttributeTest.holds (t : AttributeTest) (p : Place) : Bool :=
  match p.attributes.find? fun (key, _) => Text.asciiLower key.toList == Text.asciiLower t.name with
  | none => false
  | some (_, a) =>
    t.comparison.holds (if t.loose then Text.alike else (· == ·)) t.value a.text.toList

namespace Place

def classes (p : Place) : List String :=
  match p.attribute? "class" with
  | none => []
  | some (.words ws) => ws
  | some (.single s) => Text.wordsOf s

def along (p : Place) : Combinator → List Place
  | .descendant => p.ancestors
  | .child => p.parent?.toList
  | .next => p.previous?.toList
  | .following => p.earlier

end Place

namespace Selector

def holds : Selector → Place → Bool
  | .any, _ => true
  | .named name, p => Text.asciiLower p.name.toList == Text.asciiLower name
  | .identified id, p => ((p.attribute? "id").map (·.text.toList)).getD [] == id
  | .classed name, p => p.classes.contains (String.ofList name)
  | .attribute test, p => test.holds p
  | .firstChild, p => p.isFirst
  | .lastChild, p => p.isLast
  | .both a b, p => a.holds p && b.holds p
  | .either a b, p => a.holds p || b.holds p
  | .no a, p => !a.holds p
  | .related c a, p => (p.along c).any fun q => a.holds q

def select (s : Selector) (p : Place) : List Place := p.descendants.filter fun q => s.holds q

end Selector
end LinkPreview
