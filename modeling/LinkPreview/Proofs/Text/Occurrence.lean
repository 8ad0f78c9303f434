import LinkPreview.Proofs.Text.Pieces
import LinkPreview.Proofs.Text.Trim

set_option autoImplicit false

namespace LinkPreview.Text

/-- The texts stand in another in their order, with anything before, between and after them. -/
inductive Occur : List (List Char) → List Char → Prop
  | nil (cs : List Char) : Occur [] cs
  | skip {pieces : List (List Char)} {cs : List Char} (c : Char) (h : Occur pieces cs) :
      Occur pieces (c :: cs)
  | take {pieces : List (List Char)} {cs : List Char} (piece : List Char) (h : Occur pieces cs) :
      Occur (piece :: pieces) (piece ++ cs)

namespace Occur
variable {pieces others : List (List Char)} {cs : List Char}

theorem append (before : List Char) (h : Occur pieces cs) : Occur pieces (before ++ cs) := by
  induction before with
  | nil => exact h
  | cons c before ih => exact .skip c ih

theorem sublist (h : Occur pieces cs) (hs : others.Sublist pieces) : Occur others cs := by
  induction h generalizing others with
  | nil cs =>
    obtain rfl := List.sublist_nil.1 hs
    exact .nil cs
  | skip c _ ih => exact .skip c (ih hs)
  | take piece _ ih =>
    cases hs with
    | cons _ hs => exact (ih hs).append piece
    | cons_cons _ hs => exact .take piece (ih hs)

theorem map {f : List Char → List Char} (hf : ∀ piece, f piece <:+: piece)
    (h : Occur pieces cs) : Occur (pieces.map f) cs := by
  induction h with
  | nil cs => exact .nil cs
  | skip c _ ih => exact .skip c ih
  | @take pieces cs piece _ ih =>
    obtain ⟨before, after, hsplit⟩ := hf piece
    have hpart : Occur (f piece :: pieces.map f) (before ++ (f piece ++ (after ++ cs))) :=
      (take (f piece) (ih.append after)).append before
    rwa [← List.append_assoc, ← List.append_assoc, hsplit] at hpart

end Occur

theorem occur_join (sep : List Char) (pieces : List (List Char)) :
    Occur pieces (join sep pieces) := by
  induction pieces with
  | nil => exact .nil _
  | cons piece more ih =>
    cases more with
    | nil => simpa [join] using Occur.take piece (.nil [])
    | cons next more =>
      rw [join_cons _ _ _ (by simp), List.append_assoc]
      exact .take piece (ih.append sep)

theorem trim_part (cs : List Char) : trim cs <:+: cs :=
  (List.rdropWhile_prefix isBlank _).isInfix.trans (List.dropWhile_suffix isBlank).isInfix

end LinkPreview.Text
