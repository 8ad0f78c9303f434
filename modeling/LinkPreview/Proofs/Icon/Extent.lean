import LinkPreview.Proofs.Number.Order
import LinkPreview.Proofs.Outcome
import LinkPreview.Catalog.Parts
import Mathlib.Tactic.Linarith
import Mathlib.Tactic.NormNum

set_option autoImplicit false

namespace LinkPreview

theorem lt_foldl_max_iff {α : Type} [LinearOrder α] {a b : α} {bs : List α} :
    a < bs.foldl max b ↔ a < b ∨ ∃ x ∈ bs, a < x := by
  induction bs generalizing b with
  | nil => simp
  | cons x bs ih => rw [List.foldl_cons, ih, lt_max_iff, List.exists_mem_cons_iff, or_assoc]

theorem Number.amount?_larger {x y : Number} {p q : ℚ} (hx : x.amount? = some (finite p))
    (hy : y.amount? = some (finite q)) : (x.larger y).amount? = some (finite (max p q)) := by
  have hexceeds : y.exceeds x = true ↔ p < q :=
    (exceeds_iff hy hx).trans (finite_lt_finite p q)
  rw [larger]
  by_cases h : y.exceeds x = true
  · rw [if_pos h, hy, max_eq_right (hexceeds.1 h).le]
  · rw [if_neg h, hx, max_eq_left (not_lt.1 (mt hexceeds.2 h))]

namespace IconSize
open Text

def Size.extent : Size → ℚ
  | .any => 1 / 2
  | .area width height => (digitsValue width * digitsValue height : Nat)

def Size.IsArea : Size → Prop
  | .any => False
  | .area _ _ => True

/-- An area whose width and height are not zero. -/
def Size.IsConcrete : Size → Prop
  | .any => False
  | .area width height => digitsValue width * digitsValue height ≠ 0

instance (size : Size) : Decidable size.IsArea :=
  match size with
  | .any => inferInstanceAs (Decidable False)
  | .area _ _ => inferInstanceAs (Decidable True)

instance (size : Size) : Decidable size.IsConcrete :=
  match size with
  | .any => inferInstanceAs (Decidable False)
  | .area width height => inferInstanceAs (Decidable (digitsValue width * digitsValue height ≠ 0))

theorem Size.isArea_of_isConcrete {size : Size} (h : size.IsConcrete) : size.IsArea := by
  cases size with
  | any => exact h
  | area width height => trivial

theorem Size.half_lt_extent_iff {size : Size} : 1 / 2 < size.extent ↔ size.IsConcrete := by
  cases size with
  | any => simp [extent, IsConcrete]
  | area width height =>
    simp only [extent, IsConcrete]
    generalize digitsValue width * digitsValue height = n
    cases n with
    | zero => norm_num
    | succ n =>
      have hone : (1 : ℚ) ≤ (n + 1 : Nat) := by exact_mod_cast Nat.succ_pos n
      simp only [ne_eq, Nat.succ_ne_zero, not_false_eq_true, iff_true]
      linarith

theorem Size.extent_pos_iff {size : Size} : 0 < size.extent ↔ size = .any ∨ size.IsConcrete := by
  cases size with
  | any => simp [extent]
  | area width height => simp only [extent, IsConcrete, reduceCtorEq, false_or, Nat.cast_pos,
      Nat.pos_iff_ne_zero]

theorem numeral_eq_ok {digits : List Char} {n : Int} (h : numeral digits = .ok n) :
    n = digitsValue digits := by
  unfold numeral at h
  split at h
  · contradiction
  · exact (Except.ok.inj h).symm

theorem Size.amount?_score {size : Size} {n : Number} (h : size.score = .ok n) :
    n.amount? = some (Number.finite size.extent) := by
  cases size with
  | any =>
    rw [← Except.ok.inj h]
    norm_num [Number.half, Number.amount?, extent]
  | area width height =>
    obtain ⟨w, hw, h⟩ := bind_eq_ok.1 h
    obtain ⟨k, hk, h⟩ := bind_eq_ok.1 h
    rw [← Except.ok.inj h, numeral_eq_ok hw, numeral_eq_ok hk]
    simp [Number.amount?, extent]

def sizesOf (text : List Char) : List Size := (words text).filterMap Size.read?

def greatest (extent : ℚ) (sizes : List Size) : ℚ := (sizes.map Size.extent).foldl max extent

theorem lt_greatest_iff {a extent : ℚ} {sizes : List Size} :
    a < greatest extent sizes ↔ a < extent ∨ ∃ size ∈ sizes, a < size.extent := by
  simp [greatest, lt_foldl_max_iff]

/-- The invariant of scoring: the best score so far and the words to come have one maximum. -/
theorem amount?_scoreFrom {best n : Number} {extent : ℚ} {words : List (List Char)}
    (hb : best.amount? = some (Number.finite extent)) (h : scoreFrom best words = .ok n) :
    n.amount? = some (Number.finite (greatest extent (words.filterMap Size.read?))) := by
  induction words generalizing best extent with
  | nil =>
    rw [← Except.ok.inj h, hb]
    rfl
  | cons word more ih =>
    rw [scoreFrom] at h
    cases hr : Size.read? word with
    | none =>
      rw [hr] at h
      rw [List.filterMap_cons_none hr]
      exact ih hb h
    | some size =>
      rw [hr] at h
      obtain ⟨s, hs, h⟩ := bind_eq_ok.1 h
      rw [List.filterMap_cons_some hr]
      exact ih (Number.amount?_larger hb (Size.amount?_score hs)) h

theorem amount?_score {text : List Char} {n : Number} (h : score text = .ok n) :
    n.amount? = some (Number.finite (greatest 0 (sizesOf text))) :=
  amount?_scoreFrom (by simp [Number.amount?]) h

end IconSize

namespace Place
open IconSize

def sizes (element : Place) : List Size :=
  match element.attribute? "sizes" with
  | none => []
  | some declared => sizesOf declared.text.toList

def extent (element : Place) : ℚ := greatest 0 element.sizes

variable {element : Place}

theorem half_lt_extent_iff :
    1 / 2 < element.extent ↔ ∃ size ∈ element.sizes, size.IsConcrete := by
  simp [extent, lt_greatest_iff, ← Size.half_lt_extent_iff]

theorem extent_pos_iff :
    0 < element.extent ↔ .any ∈ element.sizes ∨ ∃ size ∈ element.sizes, size.IsConcrete := by
  rw [extent, lt_greatest_iff]
  simp [Size.extent_pos_iff, and_or_left, exists_or]

end Place

theorem Scorer.iconSize_eq_ok {v : Value} {element : Place} {s : Option Number}
    (h : iconSize v element = .ok s) :
    ∃ n, s = some n ∧ n.amount? = some (Number.finite element.extent) := by
  unfold iconSize at h
  rw [Place.extent, Place.sizes]
  cases hd : element.attribute? "sizes" with
  | none =>
    rw [hd] at h
    exact ⟨.whole 0, (Except.ok.inj h).symm, by simp [Number.amount?, IconSize.greatest]⟩
  | some declared =>
    rw [hd] at h
    obtain ⟨n, hn, h⟩ := bind_eq_ok.1 h
    exact ⟨n, (Except.ok.inj h).symm, IconSize.amount?_score hn⟩

end LinkPreview
