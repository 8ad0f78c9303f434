import LinkPreview.Number
import Mathlib.Algebra.Order.Field.Basic
import Mathlib.Algebra.Order.Ring.Rat
import Mathlib.Data.Rat.Cast.Order
import Mathlib.Order.WithBot
import Mathlib.Tactic.Positivity

/-! The comparison of numbers is that of their amounts on the rational line with both infinities.
NaN has no place on it. Of numbers on the line, the largest is one that no other exceeds. -/
set_option autoImplicit false

namespace LinkPreview

abbrev Amount := WithBot (WithTop ℚ)

namespace Number

def finite (q : ℚ) : Amount := ((q : WithTop ℚ) : Amount)

def infinity (negative : Bool) : Amount := if negative then ⊥ else ((⊤ : WithTop ℚ) : Amount)

def amount? : Number → Option Amount
  | .whole n => some (finite n)
  | .decimal mantissa places => some (finite (mantissa / 10 ^ places))
  | .nan => none
  | .infinite negative => some (infinity negative)

@[simp] theorem finite_lt_finite (p q : ℚ) : finite p < finite q ↔ p < q := by simp [finite]

theorem finite_lt_infinity (q : ℚ) (negative : Bool) :
    finite q < infinity negative ↔ negative = false := by
  cases negative with
  | true => simp [infinity]
  | false =>
    have h : finite q < infinity false := WithBot.coe_lt_coe.2 (WithTop.coe_lt_top q)
    simp [h]

theorem infinity_lt_finite (q : ℚ) (negative : Bool) :
    infinity negative < finite q ↔ negative = true := by
  cases negative with
  | true => simp [infinity, finite]
  | false => simp [infinity, finite]

theorem infinity_lt_infinity (a b : Bool) :
    infinity a < infinity b ↔ a = true ∧ b = false := by
  cases a <;> cases b <;> simp [infinity]

theorem amount?_of_fraction? {x : Number} {m : Int} {p : Nat} (h : x.fraction? = some (m, p)) :
    x.amount? = some (finite (m / 10 ^ p)) := by
  cases x with
  | whole n =>
    simp only [fraction?, Option.some.injEq, Prod.mk.injEq] at h
    obtain ⟨rfl, rfl⟩ := h
    simp [amount?]
  | decimal mantissa places =>
    simp only [fraction?, Option.some.injEq, Prod.mk.injEq] at h
    obtain ⟨rfl, rfl⟩ := h
    rfl
  | nan => simp [fraction?] at h
  | infinite negative => simp [fraction?] at h

theorem div_tenTo_lt_iff (m n : Int) (p q : Nat) :
    (n / 10 ^ q : ℚ) < m / 10 ^ p ↔ n * tenTo p < m * tenTo q := by
  have hp : (0 : ℚ) < 10 ^ p := by positivity
  have hq : (0 : ℚ) < 10 ^ q := by positivity
  rw [div_lt_div_iff₀ hq hp]
  simp only [tenTo]
  exact_mod_cast Iff.rfl

theorem exceeds_of_fraction? {x y : Number} {m n : Int} {p q : Nat}
    (hx : x.fraction? = some (m, p)) (hy : y.fraction? = some (n, q)) :
    x.exceeds y = decide (n * tenTo p < m * tenTo q) := by
  cases x with
  | nan => simp [fraction?] at hx
  | infinite negative => simp [fraction?] at hx
  | whole a =>
    cases y with
    | nan => simp [fraction?] at hy
    | infinite negative => simp [fraction?] at hy
    | whole b => simp [exceeds, hx, hy]
    | decimal b places => simp [exceeds, hx, hy]
  | decimal a places =>
    cases y with
    | nan => simp [fraction?] at hy
    | infinite negative => simp [fraction?] at hy
    | whole b => simp [exceeds, hx, hy]
    | decimal b places => simp [exceeds, hx, hy]

theorem finite_or_infinite {x : Number} {a : Amount} (h : x.amount? = some a) :
    (∃ m p, x.fraction? = some (m, p)) ∨ ∃ negative, x = .infinite negative := by
  cases x with
  | whole n => exact .inl ⟨n, 0, rfl⟩
  | decimal m p => exact .inl ⟨m, p, rfl⟩
  | nan => simp [amount?] at h
  | infinite negative => exact .inr ⟨negative, rfl⟩

theorem exceeds_iff {x y : Number} {a b : Amount} (hx : x.amount? = some a)
    (hy : y.amount? = some b) : x.exceeds y = true ↔ b < a := by
  obtain ⟨m, p, hm⟩ | ⟨s, rfl⟩ := finite_or_infinite hx <;>
    obtain ⟨n, q, hn⟩ | ⟨t, rfl⟩ := finite_or_infinite hy
  · rw [amount?_of_fraction? hm, Option.some.injEq] at hx
    rw [amount?_of_fraction? hn, Option.some.injEq] at hy
    rw [exceeds_of_fraction? hm hn, ← hx, ← hy, finite_lt_finite, div_tenTo_lt_iff]
    simp
  · rw [amount?_of_fraction? hm, Option.some.injEq] at hx
    simp only [amount?, Option.some.injEq] at hy
    rw [← hx, ← hy, infinity_lt_finite]
    cases x <;> simp [exceeds, fraction?] at hm ⊢
  · rw [amount?_of_fraction? hn, Option.some.injEq] at hy
    simp only [amount?, Option.some.injEq] at hx
    rw [← hx, ← hy, finite_lt_infinity]
    cases y <;> simp [exceeds, fraction?] at hn ⊢
  · simp only [amount?, Option.some.injEq] at hx hy
    rw [← hx, ← hy, infinity_lt_infinity]
    cases s <;> cases t <;> simp [exceeds]

theorem exceeds_eq_false_iff {x y : Number} {a b : Amount} (hx : x.amount? = some a)
    (hy : y.amount? = some b) : x.exceeds y = false ↔ a ≤ b := by
  rw [← Bool.not_eq_true, exceeds_iff hx hy, not_lt]

theorem amount?_eq_none_iff {x : Number} : x.amount? = none ↔ x = .nan := by
  cases x <;> simp [amount?]

/-- The place of a number among all numbers, of which NaN comes first. -/
def rank (x : Number) : WithBot Amount := x.amount?.elim ⊥ (↑)

section
variable {x y : Number} {a : Amount}

theorem rank_of_amount? (h : x.amount? = some a) : x.rank = a := by rw [rank, h]; rfl

theorem bot_lt_rank_iff : ⊥ < x.rank ↔ x ≠ .nan := by
  rw [Ne, ← amount?_eq_none_iff, rank]
  cases x.amount? <;> simp

theorem rank_lt_iff : x.rank < a ↔ ∀ b ∈ x.amount?, b < a := by
  rw [rank]
  cases x.amount? <;> simp

theorem rank_le_iff : x.rank ≤ a ↔ ∀ b ∈ x.amount?, b ≤ a := by
  rw [rank]
  cases x.amount? <;> simp

theorem exceeds_iff_rank (hy : y ≠ .nan) : x.exceeds y = true ↔ y.rank < x.rank := by
  obtain ⟨b, hb⟩ := Option.ne_none_iff_exists'.1 (mt amount?_eq_none_iff.1 hy)
  cases ha : x.amount? with
  | none => simp [amount?_eq_none_iff.1 ha, rank, amount?]
  | some a => rw [exceeds_iff ha hb, rank_of_amount? ha, rank_of_amount? hb, WithBot.coe_lt_coe]

theorem exceeds_eq_false_of_rank (h : x.rank ≤ y.rank) : x.exceeds y = false := by
  by_cases hy : y = .nan
  · rw [hy, exceeds_nan]
  · rwa [← Bool.not_eq_true, exceeds_iff_rank hy, not_lt]

end

def IsOrdered (x : Number) : Prop := ∃ a, x.amount? = some a

section
variable {x y z : Number} {P Q : Number → Prop}

theorem exceeds_eq_false_trans (hx : x.IsOrdered) (hy : y.IsOrdered) (hz : z.IsOrdered)
    (hxy : x.exceeds y = false) (hyz : y.exceeds z = false) : x.exceeds z = false := by
  obtain ⟨a, ha⟩ := hx
  obtain ⟨b, hb⟩ := hy
  obtain ⟨c, hc⟩ := hz
  rw [exceeds_eq_false_iff ha hb] at hxy
  rw [exceeds_eq_false_iff hb hc] at hyz
  rw [exceeds_eq_false_iff ha hc]
  exact hxy.trans hyz

theorem exceeds_eq_false_of_exceeds (hx : x.IsOrdered) (hy : y.IsOrdered)
    (h : x.exceeds y = true) : y.exceeds x = false := by
  obtain ⟨a, ha⟩ := hx
  obtain ⟨b, hb⟩ := hy
  rw [exceeds_iff ha hb] at h
  exact (exceeds_eq_false_iff hb ha).2 h.le

/-- One of some numbers that none of them exceeds. -/
structure Largest (P : Number → Prop) (x : Number) : Prop where
  mem : P x
  not_exceeded : ∀ y, P y → y.exceeds x = false

theorem Largest.congr (h : ∀ y, P y ↔ Q y) (hx : Largest P x) : Largest Q x :=
  ⟨(h x).1 hx.mem, fun y hy => hx.not_exceeded y ((h y).2 hy)⟩

theorem Largest.of_largest (hP : ∀ z, P z → z.IsOrdered) (hQ : ∀ z, Q z → z.IsOrdered)
    (hx : Largest P x) (hy : Largest (fun z => z = x ∨ Q z) y) :
    Largest (fun z => P z ∨ Q z) y := by
  have hox := hP x hx.mem
  constructor
  case mem =>
    rcases hy.mem with rfl | hq
    · exact .inl hx.mem
    · exact .inr hq
  case not_exceeded =>
    have hoy : y.IsOrdered := by
      rcases hy.mem with rfl | hq
      · exact hox
      · exact hQ y hq
    rintro z (hz | hz)
    · exact exceeds_eq_false_trans (hP z hz) hox hoy (hx.not_exceeded z hz)
        (hy.not_exceeded x (.inl rfl))
    · exact hy.not_exceeded z (.inr hz)

theorem largest_self (x : Number) : Largest (fun z => z = x) x :=
  ⟨rfl, fun _ hz => hz ▸ exceeds_self x⟩

theorem largest_larger (hx : x.IsOrdered) (hy : y.IsOrdered) :
    Largest (fun z => z = x ∨ z = y) (x.larger y) := by
  unfold larger
  split
  case isTrue h =>
    refine ⟨.inr rfl, ?_⟩
    rintro z (rfl | rfl)
    · exact exceeds_eq_false_of_exceeds hy hx h
    · exact exceeds_self z
  case isFalse h =>
    refine ⟨.inl rfl, ?_⟩
    rintro z (rfl | rfl)
    · exact exceeds_self z
    · exact Bool.eq_false_iff.2 h

theorem Largest.larger (hP : ∀ z, P z → z.IsOrdered) (hQ : ∀ z, Q z → z.IsOrdered)
    (hx : Largest P x) (hy : Largest Q y) : Largest (fun z => P z ∨ Q z) (x.larger y) := by
  have hox := hP x hx.mem
  have hoy := hQ y hy.mem
  have hone : Largest (fun z => Q z ∨ z = x) (x.larger y) :=
    hy.of_largest hQ (fun z hz => hz ▸ hox)
      ((largest_larger hox hoy).congr fun z => or_comm)
  exact hx.of_largest hP hQ (hone.congr fun z => or_comm)

end

end Number
end LinkPreview
