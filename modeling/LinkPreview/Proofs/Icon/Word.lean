import LinkPreview.IconSize
import LinkPreview.Proofs.Text.Words

set_option autoImplicit false

namespace LinkPreview
namespace IconSize
open Text

def IsNumeral (digits : List Char) : Prop := digits ≠ [] ∧ ∀ c ∈ digits, isDigit c = true

/-- The words that are sizes, each with the number that it counts. -/
inductive Counts : List Char → Number → Prop
  | any {word : List Char} (h : asciiLower word = "any".toList) : Counts word .half
  | area {width height : List Char} {x : Char} (hx : x = 'x' ∨ x = 'X') (hw : IsNumeral width)
      (hh : IsNumeral height) :
      Counts (width ++ x :: height) (.whole (digitsValue width * digitsValue height))

def Size.number : Size → Number
  | .any => .half
  | .area width height => .whole (digitsValue width * digitsValue height)

section
variable {word width height : List Char} {n : Number}

theorem dimensions?_eq_some_iff :
    dimensions? word = some (width, height) ↔ ∃ x, (x = 'x' ∨ x = 'X') ∧ IsNumeral width ∧
      IsNumeral height ∧ word = width ++ x :: height := by
  constructor
  · intro h
    unfold dimensions? at h
    dsimp only at h
    split at h
    case h_1 x rest hrest =>
      simp only [Option.ite_none_right_eq_some, Bool.and_eq_true, Bool.or_eq_true, beq_iff_eq,
        Bool.not_eq_true', List.isEmpty_eq_false_iff, List.all_eq_true, Option.some.injEq,
        Prod.mk.injEq] at h
      obtain ⟨⟨⟨⟨hx, hw⟩, hh⟩, hdigits⟩, rfl, rfl⟩ := h
      refine ⟨x, hx, ⟨hw, List.all_eq_true.1 List.all_takeWhile⟩, ⟨hh, hdigits⟩, ?_⟩
      rw [← hrest, List.takeWhile_append_dropWhile]
    case h_2 => contradiction
  · rintro ⟨x, hx, hw, hh, rfl⟩
    have hdigit : isDigit x = false := by
      rcases hx with rfl | rfl <;> decide
    have htake : (width ++ x :: height).takeWhile isDigit = width := by
      rw [List.takeWhile_append_of_pos hw.2, List.takeWhile_cons_of_neg (by simp [hdigit]),
        List.append_nil]
    have hdrop : (width ++ x :: height).dropWhile isDigit = x :: height := by
      rw [List.dropWhile_append_of_pos hw.2, List.dropWhile_cons_of_neg (by simp [hdigit])]
    have hsign : (x == 'x' || x == 'X') = true := by simpa using hx
    have hall : height.all isDigit = true := List.all_eq_true.2 hh.2
    rw [dimensions?, hdrop]
    dsimp only
    rw [htake, hsign, hall]
    simp [hw.1, hh.1]

/-- Only the letters of `any` in either case have it as their lower case. -/
theorem lower_eq_any_iff : lower word = "any".toList ↔ asciiLower word = "any".toList :=
  lowerFrom_eq_iff (by simp)

theorem not_any_of_isNumeral (h : IsNumeral width) (rest : List Char) :
    asciiLower (width ++ rest) ≠ "any".toList := by
  cases width with
  | nil => exact absurd rfl h.1
  | cons c more =>
    intro hany
    have hfirst : c.toLower = 'a' := (List.cons.inj hany).1
    have hdigit := h.2 c List.mem_cons_self
    rw [← isDigit_toLower, hfirst] at hdigit
    exact absurd hdigit (by decide)

theorem counts_iff : Counts word n ↔ ∃ size, Size.read? word = some size ∧ size.number = n := by
  unfold Size.read?
  constructor
  · intro h
    cases h with
    | any h => exact ⟨.any, by rw [if_pos (lower_eq_any_iff.2 h)], rfl⟩
    | @area width height x hx hw hh =>
      have hne := mt lower_eq_any_iff.1 (not_any_of_isNumeral hw (x :: height))
      have hread := dimensions?_eq_some_iff.2 ⟨x, hx, hw, hh, rfl⟩
      exact ⟨.area width height, by rw [if_neg hne, hread]; rfl, rfl⟩
  · rintro ⟨size, h, rfl⟩
    split at h
    case isTrue hany =>
      obtain rfl := Option.some.inj h
      exact .any (lower_eq_any_iff.1 hany)
    case isFalse =>
      obtain ⟨⟨width, height⟩, hread, rfl⟩ := Option.map_eq_some_iff.1 h
      obtain ⟨x, hx, hw, hh, rfl⟩ := dimensions?_eq_some_iff.1 hread
      exact .area hx hw hh

theorem toLower_of_isDigit {c : Char} (h : isDigit c = true) : c.toLower = c :=
  toLower_cases (P := fun c d => isDigit c = true → d = c) (by decide +kernel) (fun _ _ _ => rfl)
    c h

theorem asciiLower_of_isNumeral (h : IsNumeral width) : asciiLower width = width :=
  (List.map_congr_left fun c hc => toLower_of_isDigit (h.2 c hc)).trans (List.map_id' width)

theorem isNumeral_asciiLower (h : IsNumeral (asciiLower width)) : IsNumeral width := by
  refine ⟨fun hnil => h.1 (by rw [hnil]; rfl), fun c hc => ?_⟩
  rw [← isDigit_toLower]
  exact h.2 _ (List.mem_map_of_mem hc)

theorem toLower_eq_x_iff {c : Char} : c.toLower = 'x' ↔ c = 'x' ∨ c = 'X' := by
  refine toLower_cases (P := fun c d => d = 'x' ↔ c = 'x' ∨ c = 'X') (by decide) ?_ c
  intro c hc
  refine ⟨.inl, fun h => h.resolve_right ?_⟩
  rintro rfl
  exact absurd hc (by decide)

theorem counts_asciiLower_iff : Counts (asciiLower word) n ↔ Counts word n := by
  constructor
  · intro h
    generalize hlower : asciiLower word = lowered at h
    cases h with
    | any h =>
      rw [← hlower, asciiLower_asciiLower] at h
      exact .any h
    | @area width height x hx hw hh =>
      obtain ⟨first, rest, rfl, rfl, hrest⟩ := List.map_eq_append_iff.1 hlower
      obtain ⟨c, last, rfl, rfl, rfl⟩ := List.map_eq_cons_iff.1 hrest
      have hfirst := isNumeral_asciiLower hw
      have hlast := isNumeral_asciiLower hh
      have hc : c = 'x' ∨ c = 'X' := by
        rw [← toLower_eq_x_iff, ← toLower_toLower, toLower_eq_x_iff]
        exact hx
      show Counts _ (.whole (digitsValue (asciiLower first) * digitsValue (asciiLower last)))
      rw [asciiLower_of_isNumeral hfirst, asciiLower_of_isNumeral hlast]
      exact .area hc hfirst hlast
  · intro h
    cases h with
    | any h => exact .any ((asciiLower_asciiLower word).trans h)
    | @area width height x hx hw hh =>
      have hsplit : asciiLower (width ++ x :: height) = width ++ x.toLower :: height := by
        rw [asciiLower, List.map_append, List.map_cons]
        exact congr (congrArg _ (asciiLower_of_isNumeral hw))
          (congrArg _ (asciiLower_of_isNumeral hh))
      rw [hsplit]
      exact .area (.inl (toLower_eq_x_iff.2 hx)) hw hh

theorem isNumeral_of_read (h : Size.read? word = some (.area width height)) :
    IsNumeral width ∧ IsNumeral height := by
  unfold Size.read? at h
  split at h
  case isTrue => simp at h
  case isFalse =>
    obtain ⟨⟨w, k⟩, hread, hsize⟩ := Option.map_eq_some_iff.1 h
    obtain ⟨rfl, rfl⟩ := Size.area.inj hsize
    obtain ⟨x, -, hw, hk, -⟩ := dimensions?_eq_some_iff.1 hread
    exact ⟨hw, hk⟩

end

end IconSize
end LinkPreview
