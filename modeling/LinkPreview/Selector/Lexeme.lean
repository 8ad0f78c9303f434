import LinkPreview.Selector.Basic
import LinkPreview.Text.Hex

set_option autoImplicit false

namespace LinkPreview

/-- A combinator is `none` for the comma between alternatives. -/
inductive Lexeme where
  | named (name : List Char)
  | any
  | identified (id : List Char)
  | classed (name : List Char)
  | attribute (test : AttributeTest)
  | lacks (test : AttributeTest)
  | pseudo (name : List Char)
  | opening (name : List Char)
  | close
  | combinator (c : Option Combinator)
  deriving DecidableEq, Repr

namespace Lexeme
open Text

def isBreak (c : Char) : Bool := c == '\n' || c == '\x0C' || c == '\r'

def isSpace (c : Char) : Bool := c == ' ' || c == '\t' || isBreak c

def dropSpace : List Char → Option (List Char)
  | '\r' :: '\n' :: cs => some cs
  | c :: cs => if isSpace c then some cs else none
  | [] => none

def dropComment : List Char → Option (List Char)
  | '*' :: '/' :: cs => some cs
  | _ :: cs => dropComment cs
  | [] => none

theorem length_dropComment {cs rest : List Char} (h : dropComment cs = some rest) :
    rest.length < cs.length := by
  fun_induction dropComment cs with
  | case1 cs => cases h; simp only [List.length_cons]; omega
  | case2 c cs _ ih => have := ih h; simp only [List.length_cons]; omega
  | case3 => cases h

def skip (cs : List Char) : List Char :=
  match cs with
  | '/' :: '*' :: inner =>
    match _h : dropComment inner with
    | some rest => skip rest
    | none => cs
  | c :: rest => if isSpace c then skip rest else cs
  | [] => []
termination_by cs.length
decreasing_by
  · have := length_dropComment _h; simp only [List.length_cons]; omega
  · simp

/-- The character that is written after a backslash: up to six hexadecimal digits and a space, or
any character but a line break. -/
def escaped : List Char → Option (Char × List Char)
  | [] => some ('\uFFFD', [])
  | c :: cs =>
    let digits := ((c :: cs).take 6).takeWhile isHexDigit
    if digits.isEmpty then
      if isBreak c then none else some (c, cs)
    else
      let rest := (c :: cs).drop digits.length
      some (charOf (hexValue digits), (dropSpace rest).getD rest)

def startsName (c : Char) : Bool := c.isAlpha || c == '_' || 0xA0 ≤ c.toNat

def continuesName (c : Char) : Bool := startsName c || c.isDigit || c == '-'

theorem length_dropSpace {cs rest : List Char} (h : dropSpace cs = some rest) :
    rest.length < cs.length := by
  fun_cases dropSpace cs with
  | case1 cs => cases h; simp only [List.length_cons]; omega
  | case2 c cs hc => simp_all [dropSpace]
  | case3 c cs hc => simp_all [dropSpace]
  | case4 => cases h

theorem length_escaped {cs rest : List Char} {e : Char} (h : escaped cs = some (e, rest)) :
    rest.length ≤ cs.length := by
  cases cs with
  | nil => cases h; simp
  | cons c cs =>
    simp only [escaped] at h
    split at h
    · split at h
      · cases h
      · cases h; simp
    · cases h
      cases hs : dropSpace ((c :: cs).drop _) with
      | none => simp
      | some r => have := length_dropSpace hs; simp at this ⊢; omega

def nameRun (cs : List Char) : List Char × List Char :=
  match cs with
  | [] => ([], [])
  | c :: cs =>
    if c = '\\' then
      match _h : escaped cs with
      | none => ([], c :: cs)
      | some (e, rest) => let (name, rest) := nameRun rest; (e :: name, rest)
    else if continuesName c then let (name, rest) := nameRun cs; (c :: name, rest)
    else ([], c :: cs)
termination_by cs.length
decreasing_by
  · have := length_escaped _h; simp only [List.length_cons]; omega
  · simp

def beginsName : List Char → Bool
  | '\\' :: cs => (escaped cs).isSome
  | c :: _ => startsName c
  | [] => false

/-- A name: one hyphen may come before it, and after two hyphens anything goes. -/
def readName (cs : List Char) : Option (List Char × List Char) :=
  match cs with
  | '-' :: '-' :: rest => let (name, rest) := nameRun rest; some ('-' :: '-' :: name, rest)
  | '-' :: rest =>
    if beginsName rest then
      let (name, rest) := nameRun rest
      some ('-' :: name, rest)
    else none
  | _ => if beginsName cs then some (nameRun cs) else none

def quotedBody (quote : Char) : List Char → Option (List Char × List Char)
  | [] => none
  | ['\\'] => none
  | '\\' :: c :: cs => (quotedBody quote cs).map fun (body, rest) => ('\\' :: c :: body, rest)
  | c :: cs =>
    if c = quote then some ([], cs)
    else if isBreak c then none
    else (quotedBody quote cs).map fun (body, rest) => (c :: body, rest)

def unescape (cs : List Char) : List Char :=
  match cs with
  | [] => []
  | c :: cs =>
    if c = '\\' then
      match _h : escaped cs with
      | some (e, rest) => e :: unescape rest
      | none =>
        match _h : dropSpace cs with
        | some rest => unescape rest
        | none => unescape cs
    else c :: unescape cs
termination_by cs.length
decreasing_by
  · have := length_escaped _h; simp only [List.length_cons]; omega
  · have := length_dropSpace _h; simp only [List.length_cons]; omega
  · simp
  · simp

def readValue : List Char → Option (List Char × List Char)
  | '\x22' :: cs => (quotedBody '\x22' cs).map fun (body, rest) => (unescape body, rest)
  | '\x27' :: cs => (quotedBody '\x27' cs).map fun (body, rest) => (unescape body, rest)
  | cs => readName cs

def readComparison : List Char → Option (Comparison × Bool × List Char)
  | '=' :: cs => some (.equals, false, cs)
  | '!' :: '=' :: cs => some (.equals, true, cs)
  | '~' :: '=' :: cs => some (.word, false, cs)
  | '|' :: '=' :: cs => some (.dash, false, cs)
  | '^' :: '=' :: cs => some (.starts, false, cs)
  | '$' :: '=' :: cs => some (.ends, false, cs)
  | '*' :: '=' :: cs => some (.contains, false, cs)
  | _ => none

/-- Case matters in values by default, except in those of the attribute `type`; the flags `i` and
`s` settle it. -/
def isLoose (name : List Char) : Option Char → Bool
  | some flag => flag == 'i' || flag == 'I'
  | none => asciiLower name == "type".toList

def readTest (cs : List Char) : Option (Lexeme × List Char) := do
  let (name, cs) ← readName (skip cs)
  match skip cs with
  | ']' :: rest => return (.attribute ⟨name, .present, [], false⟩, rest)
  | cs =>
    let (comparison, negated, cs) ← readComparison cs
    let (value, cs) ← readValue (skip cs)
    let (flag, cs) := match skip cs with
      | c :: rest =>
        if c == 'i' || c == 's' || c == 'I' || c == 'S' then (some c, skip rest)
        else (none, c :: rest)
      | [] => (none, [])
    let test : AttributeTest := ⟨name, comparison, value, isLoose name flag⟩
    match cs with
    | ']' :: rest => return (if negated then .lacks test else .attribute test, rest)
    | _ => none

def combinatorOf? : Char → Option (Option Combinator)
  | ',' => some none
  | '>' => some (some .child)
  | '+' => some (some .next)
  | '~' => some (some .following)
  | _ => none

/-- A combinator. A space is one, unless a written combinator comes right after it. -/
def readCombinator (cs : List Char) : Option (Lexeme × List Char) :=
  let cs := match cs with
    | '/' :: '*' :: inner => ((dropComment inner).map skipComments).getD cs
    | _ => cs
  match cs with
  | [] => none
  | c :: rest =>
    match combinatorOf? c with
    | some k => some (.combinator k, skip rest)
    | none =>
      match dropSpace cs with
      | none => none
      | some rest =>
        match rest.head?.bind combinatorOf? with
        | some k => some (.combinator k, skip (rest.drop 1))
        | none => some (.combinator (some .descendant), skip rest)
where
  skipComments (cs : List Char) : List Char :=
    match cs with
    | '/' :: '*' :: inner =>
      match _h : dropComment inner with
      | some rest => skipComments rest
      | none => cs
    | _ => cs
  termination_by cs.length
  decreasing_by have := length_dropComment _h; simp only [List.length_cons]; omega

def readPseudo (cs : List Char) : Option (Lexeme × List Char) := do
  let (name, rest) ← readName cs
  match rest with
  | '(' :: rest => return (.opening (asciiLower name), skip rest)
  | rest => return (.pseudo (asciiLower name), rest)

def read (cs : List Char) : Option (Lexeme × List Char) :=
  match skip cs with
  | ')' :: rest => some (.close, rest)
  | _ =>
    match cs with
    | ':' :: rest => readPseudo rest
    | '#' :: rest => (readName rest).map fun (name, rest) => (.identified name, rest)
    | '.' :: rest => (readName rest).map fun (name, rest) => (.classed name, rest)
    | '[' :: rest => readTest rest
    | '*' :: rest => some (.any, rest)
    | _ =>
      match readName cs with
      | some (name, rest) => some (.named name, rest)
      | none => readCombinator cs

def readAll (cs : List Char) : Option (List Lexeme) :=
  if (skip cs).isEmpty then some []
  else
    match read cs with
    | none => none
    | some (lexeme, rest) =>
      if rest.length < cs.length then (readAll rest).map (lexeme :: ·) else none
termination_by cs.length

end Lexeme
end LinkPreview
