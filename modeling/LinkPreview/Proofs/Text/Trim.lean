import LinkPreview.Text.Blank
import Mathlib.Data.List.DropRight
import Mathlib.Data.List.TakeWhile

set_option autoImplicit false

namespace LinkPreview.Text

theorem mem_dropWhile_of_not {p : Char → Bool} {c : Char} {cs : List Char} (h : c ∈ cs)
    (hc : p c = false) : c ∈ cs.dropWhile p := by
  have hsplit : c ∈ cs.takeWhile p ++ cs.dropWhile p := by rwa [List.takeWhile_append_dropWhile]
  rcases List.mem_append.1 hsplit with ht | hd
  · have htrue := List.all_eq_true.1 List.all_takeWhile c ht
    rw [hc] at htrue
    contradiction
  · exact hd

theorem mem_trim_of_not_blank {c : Char} {cs : List Char} (h : c ∈ cs)
    (hc : isBlank c = false) : c ∈ trim cs := by
  have hd := mem_dropWhile_of_not h hc
  rw [trim, List.mem_reverse]
  exact mem_dropWhile_of_not (List.mem_reverse.2 hd) hc

theorem trim_eq_nil_iff {cs : List Char} : trim cs = [] ↔ ∀ c ∈ cs, isBlank c = true := by
  constructor
  · intro h c hm
    cases hc : isBlank c with
    | true => rfl
    | false =>
      have hmem := mem_trim_of_not_blank hm hc
      rw [h] at hmem
      simp at hmem
  · intro h
    have hd : cs.dropWhile isBlank = [] := List.dropWhile_eq_nil_iff.2 h
    rw [trim, hd]
    rfl

theorem trim_eq_rdropWhile (cs : List Char) :
    trim cs = (cs.dropWhile isBlank).rdropWhile isBlank := rfl

theorem dropWhile_eq_self_iff_head? {p : Char → Bool} {cs : List Char} :
    cs.dropWhile p = cs ↔ ∀ c ∈ cs.head?, p c = false := by
  rw [List.dropWhile_eq_self_iff]
  cases cs <;> simp

theorem rdropWhile_eq_self_iff_getLast? {p : Char → Bool} {cs : List Char} :
    cs.rdropWhile p = cs ↔ ∀ c ∈ cs.getLast?, p c = false := by
  rw [List.rdropWhile_eq_self_iff]
  rcases List.eq_nil_or_concat cs with rfl | ⟨before, last, rfl⟩ <;> simp

theorem head?_of_initial {cs ds : List Char} (h : cs <+: ds) : ∀ c ∈ cs.head?, c ∈ ds.head? := by
  obtain ⟨rest, rfl⟩ := h
  cases cs <;> simp

theorem trim_eq_self_iff {cs : List Char} :
    trim cs = cs ↔ (∀ c ∈ cs.head?, isBlank c = false) ∧ ∀ c ∈ cs.getLast?, isBlank c = false := by
  rw [← dropWhile_eq_self_iff_head?, ← rdropWhile_eq_self_iff_getLast?, trim_eq_rdropWhile]
  constructor
  · intro h
    have hd : cs.dropWhile isBlank = cs := by
      refine (List.dropWhile_suffix isBlank).eq_of_length_le ?_
      conv_lhs => rw [← h]
      exact (List.rdropWhile_prefix isBlank _).length_le
    rw [hd] at h
    exact ⟨hd, h⟩
  · intro h
    rw [h.1, h.2]

theorem trim_trim (cs : List Char) : trim (trim cs) = trim cs := by
  rw [trim_eq_self_iff, ← rdropWhile_eq_self_iff_getLast?, trim_eq_rdropWhile]
  refine ⟨?_, List.rdropWhile_idempotent isBlank _⟩
  intro c hc
  have hhead := head?_of_initial (List.rdropWhile_prefix isBlank _) c hc
  exact dropWhile_eq_self_iff_head?.1 (List.dropWhile_idempotent isBlank cs) c hhead

@[simp] theorem strip_strip (s : String) : strip (strip s) = strip s := by
  rw [strip, strip, String.toList_ofList, trim_trim]

theorem strip_eq_self_iff {s : String} : strip s = s ↔ trim s.toList = s.toList := by
  rw [strip, ← String.toList_inj, String.toList_ofList]

theorem isBlankText_eq_true_iff {s : String} :
    isBlankText s = true ↔ ∀ c ∈ s.toList, isBlank c = true := by
  rw [isBlankText, List.isEmpty_iff, trim_eq_nil_iff]

@[simp] theorem isBlankText_strip (s : String) : isBlankText (strip s) = isBlankText s := by
  rw [isBlankText, isBlankText, strip, String.toList_ofList, trim_trim]

end LinkPreview.Text
