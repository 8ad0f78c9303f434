/-! Cutting text at separators and joining it again. A cut at `n` separators gives `n + 1`
pieces, so the pieces and the separator determine the text (`join_splitAt`). -/
set_option autoImplicit false

namespace LinkPreview.Text

def cut (sep : Char → Bool) : List Char → List Char × List (List Char)
  | [] => ([], [])
  | c :: cs =>
    let (piece, more) := cut sep cs
    if sep c then ([], piece :: more) else (c :: piece, more)

def pieces (sep : Char → Bool) (cs : List Char) : List (List Char) :=
  (cut sep cs).1 :: (cut sep cs).2

def splitAt (sep : Char) (cs : List Char) : List (List Char) := pieces (· == sep) cs

def join (sep : List Char) : List (List Char) → List Char
  | [] => []
  | [piece] => piece
  | piece :: next :: more => piece ++ sep ++ join sep (next :: more)

def before (sep : Char) (cs : List Char) : List Char := cs.takeWhile (· != sep)

def after (sep : Char) (cs : List Char) : List Char := (cs.dropWhile (· != sep)).drop 1

def afterLast (sep : Char) (cs : List Char) : List Char :=
  (cs.reverse.takeWhile (· != sep)).reverse

theorem join_cons (sep piece : List Char) (more : List (List Char)) (h : more ≠ []) :
    join sep (piece :: more) = piece ++ sep ++ join sep more := by
  cases more with
  | nil => contradiction
  | cons next more => rfl

theorem join_splitAt (sep : Char) (cs : List Char) : join [sep] (splitAt sep cs) = cs := by
  induction cs with
  | nil => rfl
  | cons c cs ih =>
    simp only [splitAt, pieces] at ih ⊢
    by_cases h : c = sep
    · simp [cut, h, join_cons, ih]
    · cases hm : (cut (· == sep) cs).2 with
      | nil => rw [hm] at ih; simpa [cut, h, hm, join] using ih
      | cons next more =>
        rw [hm, join_cons _ _ _ (by simp)] at ih
        simpa [cut, h, hm, join_cons] using ih

end LinkPreview.Text
