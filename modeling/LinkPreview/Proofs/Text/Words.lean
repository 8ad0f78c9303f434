import LinkPreview.Proofs.Text.Case
import LinkPreview.Proofs.Text.Pieces
import LinkPreview.Text.Blank
import LinkPreview.Text.Digit

set_option autoImplicit false

namespace LinkPreview.Text
variable {blanks : List Char}

theorem words_append_blank {c : Char} (h : isBlank c = true) (before after : List Char) :
    words (before ++ c :: after) = words before ++ words after := by
  rw [words, pieces_append h, List.filter_append]
  rfl

theorem words_blanks_append (h : ∀ c ∈ blanks, isBlank c = true) (cs : List Char) :
    words (blanks ++ cs) = words cs := by
  induction blanks with
  | nil => rfl
  | cons c blanks ih =>
    rw [List.forall_mem_cons] at h
    have hsplit : words (c :: (blanks ++ cs)) = words [] ++ words (blanks ++ cs) :=
      words_append_blank h.1 [] (blanks ++ cs)
    rw [List.cons_append, hsplit, ih h.2]
    rfl

theorem words_append (hne : blanks ≠ []) (h : ∀ c ∈ blanks, isBlank c = true)
    (before after : List Char) :
    words (before ++ blanks ++ after) = words before ++ words after := by
  cases blanks with
  | nil => contradiction
  | cons c blanks =>
    rw [List.forall_mem_cons] at h
    rw [List.append_assoc, List.cons_append, words_append_blank h.1, words_blanks_append h.2]

@[simp] theorem isBlank_toLower (c : Char) : isBlank c.toLower = isBlank c :=
  toLower_cases (P := fun c d => isBlank d = isBlank c) (by decide) (fun _ _ => rfl) c

@[simp] theorem digitValue?_toLower (c : Char) : digitValue? c.toLower = digitValue? c :=
  toLower_cases (P := fun c d => digitValue? d = digitValue? c) (by decide +kernel)
    (fun _ _ => rfl) c

@[simp] theorem isDigit_toLower (c : Char) : isDigit c.toLower = isDigit c := by simp [isDigit]

theorem words_asciiLower (cs : List Char) : words (asciiLower cs) = (words cs).map asciiLower := by
  rw [words, asciiLower, pieces_map isBlank_toLower, List.filter_map, words]
  congr 2
  funext piece
  simp

end LinkPreview.Text
