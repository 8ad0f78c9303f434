import LinkPreview.Rule.Basic

/-! Running a rule set on a document. The first rule that has a candidate decides; without a
scorer its first candidate is the result, and with one the candidate that scores best. -/
set_option autoImplicit false

namespace LinkPreview

structure Ranking where
  candidates : Nat
  score : Option Number
  deriving DecidableEq, Repr

structure Match where
  value : Value
  position : Nat
  ranking : Option Ranking
  deriving Repr

structure Candidate where
  value : Value
  element : Place

def beats : Option Number → Option Number → Except Fault Bool
  | some x, some y => .ok (x.exceeds y)
  | _, _ => .error .mismatch

namespace Candidate

def challenge (score : Scorer) (best : Value) (bestScore : Option Number) :
    List Candidate → Except Fault (Value × Option Number)
  | [] => .ok (best, bestScore)
  | c :: more => do
    let s ← score c.value c.element
    if ← beats s bestScore then challenge score c.value s more
    else challenge score best bestScore more

def best (score : Scorer) (first : Candidate) (more : List Candidate) :
    Except Fault (Value × Option Number) := do
  challenge score first.value (← score first.value first.element) more

end Candidate

namespace Matcher

def processAll (context : Context) : List Processor → Value → Except Fault Value
  | [], value => .ok value
  | process :: more, value => do processAll context more (← process value context)

/-- The processed value of an element, if neither the raw nor the processed one is empty. -/
def valueAt (m : Matcher) (context : Context) (rule : Rule) (element : Place) :
    Except Fault (Option Value) := do
  let raw ← rule.extract element
  if raw.isEmpty then return none
  let value ← processAll context m.processors raw
  return if value.isEmpty then none else some value

def firstValue (m : Matcher) (context : Context) (rule : Rule) :
    List Place → Except Fault (Option Value)
  | [] => .ok none
  | element :: more => do
    match ← m.valueAt context rule element with
    | some value => return some value
    | none => firstValue m context rule more

def candidates (m : Matcher) (context : Context) (rule : Rule) :
    List Place → Except Fault (List Candidate)
  | [] => .ok []
  | element :: more => do
    match ← m.valueAt context rule element with
    | some value => return ⟨value, element⟩ :: (← candidates m context rule more)
    | none => candidates m context rule more

def tryRule (m : Matcher) (context : Context) (page : Place) (position : Nat) (rule : Rule) :
    Except Fault (Option Match) := do
  let elements ← rule.target.pick page
  match m.scorer with
  | none => return (← m.firstValue context rule elements).map fun value => ⟨value, position, none⟩
  | some score =>
    match ← m.candidates context rule elements with
    | [] => return none
    | first :: more =>
      let (value, s) ← Candidate.best score first more
      return some ⟨value, position, some ⟨more.length + 1, s⟩⟩

def tryFrom (m : Matcher) (context : Context) (page : Place) (position : Nat) :
    List Rule → Except Fault (Option Match)
  | [] => .ok none
  | rule :: more => do
    match ← m.tryRule context page position rule with
    | some found => return some found
    | none => tryFrom m context page (position + 1) more

def run (m : Matcher) (page : Place) (context : Context) : Except Fault (Option Match) :=
  m.tryFrom context page 0 m.rules

end Matcher
end LinkPreview
