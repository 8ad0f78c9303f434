import LinkPreview.Text.CaseTable

set_option autoImplicit false

namespace LinkPreview.Text

def asciiLower (cs : List Char) : List Char := cs.map Char.toLower

def lowerChar (c : Char) : Char :=
  if c = '\u0130' then 'i' else
    match lowerRuns.find? (·.has c.toNat) with
    | some r => Char.ofNat (c.toNat + r.shift).toNat
    | none => c

def inRanges (ranges : List (Nat × Nat)) (c : Char) : Bool :=
  ranges.any fun (first, last) => first ≤ c.toNat && c.toNat ≤ last

def meetsCased (cs : List Char) : Bool :=
  match cs.dropWhile (inRanges caseIgnorableRanges) with
  | [] => false
  | c :: _ => inRanges casedRanges c

/-- Lower case of a text that follows `past`, which is written backwards. A capital sigma that
ends a word takes its final form, and a capital I with a dot keeps the dot. -/
def lowerFrom (past : List Char) : List Char → List Char
  | [] => []
  | c :: cs =>
    let rest := lowerFrom (c :: past) cs
    if c = '\u03A3' then
      (if meetsCased past && !meetsCased cs then '\u03C2' else '\u03C3') :: rest
    else if c = '\u0130' then 'i' :: '\u0307' :: rest
    else lowerChar c :: rest

def lower (cs : List Char) : List Char := lowerFrom [] cs

def alike (a b : Char) : Bool :=
  let x := lowerChar a
  let y := lowerChar b
  x == y || alikeGroups.any fun g => g.contains x.toNat && g.contains y.toNat

end LinkPreview.Text
