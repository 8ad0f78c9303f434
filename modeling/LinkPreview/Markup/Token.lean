import LinkPreview.Document.Forest
import LinkPreview.Markup.Reference
import LinkPreview.Text.Case

set_option autoImplicit false

namespace LinkPreview.Markup
open Text

/-- Document types and other declarations count as comments. A start tag is closed if its element
ends with it. -/
inductive Token where
  | text (content : List Char)
  | comment (content : List Char)
  | start (tag : Tag) (closed : Bool)
  | stop (name : String)
  deriving DecidableEq, Repr

def isSpace (c : Char) : Bool := c == ' ' || c == '\t' || c == '\n' || c == '\x0C'

def endsName (c : Char) : Bool := isSpace c || c == '/' || c == '>'

def endsKey (c : Char) : Bool := endsName c || c == '='

def endsValue (c : Char) : Bool := isSpace c || c == '>'

def unifyLines : List Char → List Char
  | [] => []
  | '\r' :: '\n' :: cs => '\n' :: unifyLines cs
  | '\r' :: cs => '\n' :: unifyLines cs
  | c :: cs => c :: unifyLines cs

def upTo (p : Char → Bool) (cs : List Char) : List Char × List Char :=
  (cs.takeWhile (!p ·), cs.dropWhile (!p ·))

theorem length_upTo (p : Char → Bool) (cs : List Char) : (upTo p cs).2.length ≤ cs.length :=
  (List.dropWhile_suffix _).length_le

def through (p : Char → Bool) (cs : List Char) : List Char × List Char :=
  ((upTo p cs).1, (upTo p cs).2.drop 1)

theorem length_through (p : Char → Bool) (cs : List Char) :
    (through p cs).2.length ≤ cs.length := by
  have := length_upTo p cs
  simp only [through, List.length_drop]
  omega

def readValue : List Char → List Char × List Char
  | '\x22' :: cs => through (· == '\x22') cs
  | '\x27' :: cs => through (· == '\x27') cs
  | cs => upTo endsValue cs

theorem length_readValue (cs : List Char) : (readValue cs).2.length ≤ cs.length := by
  fun_cases readValue cs with
  | case1 cs => exact Nat.le_succ_of_le (length_through _ cs)
  | case2 cs => exact Nat.le_succ_of_le (length_through _ cs)
  | case3 => exact length_upTo _ cs

def readAssignment (cs : List Char) : List Char × List Char :=
  match (upTo (!isSpace ·) cs).2 with
  | '=' :: rest => readValue (upTo (!isSpace ·) rest).2
  | rest => ([], rest)

theorem length_readAssignment (cs : List Char) :
    (readAssignment cs).2.length ≤ cs.length := by
  have h := length_upTo (!isSpace ·) cs
  unfold readAssignment
  split
  · next rest heq =>
    rw [heq] at h
    have := length_readValue (upTo (!isSpace ·) rest).2
    have := length_upTo (!isSpace ·) rest
    simp only [List.length_cons] at h
    omega
  · exact h

def readAttributes (cs : List Char) : Option ((List (List Char × List Char) × Bool) × List Char) :=
  match cs with
  | [] => none
  | '>' :: rest => some (([], false), rest)
  | '/' :: '>' :: rest => some (([], true), rest)
  | c :: rest =>
    if isSpace c || c == '/' then readAttributes rest
    else
      let key := upTo endsKey rest
      let value := readAssignment key.2
      (readAttributes value.2).map fun ((more, closed), rest) =>
        (((c :: key.1, value.1) :: more, closed), rest)
termination_by cs.length
decreasing_by
  · simp
  · have := length_upTo endsKey rest
    have := length_readAssignment (upTo endsKey rest).2
    simp only [List.length_cons]
    omega

theorem length_readAttributes {cs rest : List Char} {found : List (List Char × List Char) × Bool}
    (h : readAttributes cs = some (found, rest)) : rest.length ≤ cs.length := by
  fun_induction readAttributes cs generalizing found rest with
  | case1 => cases h
  | case2 r => cases h; simp
  | case3 r => cases h; simp only [List.length_cons]; omega
  | case4 c r _ _ hc ih => exact Nat.le_succ_of_le (ih h)
  | case5 c r =>
    rename_i key value ih
    obtain ⟨⟨⟨more, closed⟩, r'⟩, h₁, h₂⟩ := Option.map_eq_some_iff.1 h
    cases h₂
    have := ih h₁
    have : key.2.length ≤ r.length := length_upTo endsKey r
    have : value.2.length ≤ key.2.length := length_readAssignment key.2
    simp only [List.length_cons]
    omega

/-- Of attributes with one name, the first counts. -/
def attributesOf (written : List (List Char × List Char)) : List (String × Attribute) :=
  written.foldl (fun kept (key, value) =>
    let key := String.ofList (asciiLower key)
    if kept.any (·.1 == key) then kept
    else kept ++ [(key, .single (String.ofList (decode true value)))]) []

inductive Content where
  | mixed
  | text
  | bare
  deriving DecidableEq, Repr

def Content.ofTag : String → Content
  | "title" | "textarea" => .text
  | "script" | "style" | "xmp" | "iframe" | "noembed" | "noframes" => .bare
  | _ => .mixed

def isEndTag (name : List Char) : List Char → Bool
  | '<' :: '/' :: cs =>
    asciiLower (cs.take name.length) == name && (cs.drop name.length).head?.any endsName
  | _ => false

def upToEndTag (name : List Char) : List Char → List Char × List Char
  | [] => ([], [])
  | c :: cs =>
    if isEndTag name (c :: cs) then ([], c :: cs)
    else let (content, rest) := upToEndTag name cs; (c :: content, rest)

theorem length_upToEndTag (name cs : List Char) :
    (upToEndTag name cs).2.length ≤ cs.length := by
  induction cs with
  | nil => simp [upToEndTag]
  | cons c cs ih => simp only [upToEndTag]; split <;> simp only [List.length_cons] <;> omega

def textTokens (content : List Char) : List Token :=
  if content.isEmpty then [] else [.text content]

def readInner (tag : Tag) (decoded : List Char → List Char) (cs : List Char) :
    List Token × List Char :=
  let inner := upToEndTag tag.name.toList cs
  (.start tag false :: textTokens (decoded inner.1), inner.2)

def readStart (cs : List Char) : List Token × List Char :=
  let name := upTo endsName cs
  match readAttributes name.2 with
  | none => ([], [])
  | some ((written, closed), rest) =>
    let tag : Tag := ⟨String.ofList (asciiLower name.1), attributesOf written⟩
    match closed, Content.ofTag tag.name with
    | false, .text => readInner tag (decode false) rest
    | false, .bare => readInner tag id rest
    | _, _ => ([.start tag closed], rest)

theorem length_readStart (cs : List Char) : (readStart cs).2.length ≤ cs.length := by
  have h₁ := length_upTo endsName cs
  simp only [readStart]
  split
  · simp
  · next written closed rest heq =>
    have h₂ := length_readAttributes heq
    have h₃ : ∀ tag decoded, (readInner tag decoded rest).2.length ≤ rest.length :=
      fun tag _ => length_upToEndTag tag.name.toList rest
    split
    · exact Nat.le_trans (h₃ _ _) (Nat.le_trans h₂ h₁)
    · exact Nat.le_trans (h₃ _ _) (Nat.le_trans h₂ h₁)
    · exact Nat.le_trans h₂ h₁

def readStop (cs : List Char) : List Token × List Char :=
  let name := upTo endsName cs
  match readAttributes name.2 with
  | none => ([], [])
  | some (_, rest) => ([.stop (String.ofList (asciiLower name.1))], rest)

theorem length_readStop (cs : List Char) : (readStop cs).2.length ≤ cs.length := by
  have h₁ := length_upTo endsName cs
  simp only [readStop]
  split
  · simp
  · next heq => have := length_readAttributes heq; simp only; omega

def readComment : List Char → List Char × List Char
  | '-' :: '-' :: '>' :: cs => ([], cs)
  | '-' :: '-' :: '!' :: '>' :: cs => ([], cs)
  | [] => ([], [])
  | c :: cs => let inner := readComment cs; (c :: inner.1, inner.2)

theorem length_readComment (cs : List Char) : (readComment cs).2.length ≤ cs.length := by
  fun_induction readComment cs with
  | case1 cs | case2 cs => simp only [List.length_cons]; omega
  | case3 => simp
  | case4 c cs _ _ inner ih => exact Nat.le_succ_of_le ih

def asComment (inner : List Char × List Char) : List Token × List Char :=
  ([.comment inner.1], inner.2)

/-- Markup after its opening bracket. A bracket that opens nothing is a text. -/
def readMarkup : List Char → List Token × List Char
  | '!' :: '-' :: '-' :: '>' :: cs | '!' :: '-' :: '-' :: '-' :: '>' :: cs => asComment ([], cs)
  | '!' :: '-' :: '-' :: cs => asComment (readComment cs)
  | '!' :: cs | '?' :: cs => asComment (through (· == '>') cs)
  | '/' :: '>' :: cs => ([], cs)
  | '/' :: c :: cs =>
    if c.isAlpha then readStop (c :: cs) else asComment (through (· == '>') (c :: cs))
  | c :: cs => if c.isAlpha then readStart (c :: cs) else ([.text ['<']], c :: cs)
  | [] => ([.text ['<']], [])

theorem length_readMarkup (cs : List Char) : (readMarkup cs).2.length ≤ cs.length := by
  fun_cases readMarkup cs with
  | _ => grind [asComment, length_readComment, length_through, length_readStop, length_readStart]

def tokensOf (cs : List Char) : List Token :=
  match cs with
  | [] => []
  | c :: cs =>
    if c = '<' then
      let markup := readMarkup cs
      markup.1 ++ tokensOf markup.2
    else
      let run := upTo (· == '<') cs
      .text (decode false (c :: run.1)) :: tokensOf run.2
termination_by cs.length
decreasing_by
  · exact Nat.lt_succ_of_le (length_readMarkup cs)
  · exact Nat.lt_succ_of_le (length_upTo _ cs)

def tokens (html : String) : List Token := tokensOf (unifyLines html.toList)

end LinkPreview.Markup
