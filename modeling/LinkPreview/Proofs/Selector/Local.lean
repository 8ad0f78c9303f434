import LinkPreview.Selector.Basic
import Mathlib.Data.List.Find
import Mathlib.Data.List.Forall2
import Mathlib.Data.List.Nodup

/-! Selectors that look at nothing but the name and the attributes of an element. Where the
elements of two documents agree in these one by one, such a selector picks the same of them. -/
set_option autoImplicit false

namespace LinkPreview

namespace Place

def attributeInAnyCase? (p : Place) (name : List Char) : Option Attribute :=
  (p.attributes.find? fun (key, _) => Text.asciiLower key.toList == Text.asciiLower name).map (·.2)

/-- Two places with one name, where each attribute name stands for the same. The order of the
attributes only matters if the names of some differ in case alone. -/
structure Agrees (p q : Place) : Prop where
  name : p.name = q.name
  spelled : ∀ key, p.attribute? key = q.attribute? key
  inAnyCase : ∀ name, p.attributeInAnyCase? name = q.attributeInAnyCase? name

theorem attribute?_eq (p : Place) (key : String) :
    p.attribute? key = (p.attributes.find? fun a => key == a.1).map (·.2) := by
  unfold attribute?
  induction p.attributes with
  | nil => rfl
  | cons a others ih =>
    obtain ⟨k, v⟩ := a
    rw [List.lookup_cons, List.find?_cons]
    cases h : key == k with
    | true => rfl
    | false => exact ih

theorem agrees_of_eq {p q : Place} (hname : p.name = q.name) (h : p.attributes = q.attributes) :
    p.Agrees q where
  name := hname
  spelled key := by rw [attribute?, attribute?, h]
  inAnyCase name := by rw [attributeInAnyCase?, attributeInAnyCase?, h]

/-- If no two names differ in case alone, the order of the attributes does not matter. -/
theorem agrees_of_perm {p q : Place} (hname : p.name = q.name)
    (h : p.attributes.Perm q.attributes)
    (hd : (p.attributes.map fun a => Text.asciiLower a.1.toList).Nodup) : p.Agrees q := by
  have hfind : ∀ test : String × Attribute → Bool,
      (∀ a b, test a = true → test b = true →
        Text.asciiLower a.1.toList = Text.asciiLower b.1.toList) →
      p.attributes.find? test = q.attributes.find? test := by
    intro test htest
    refine List.find?_eq_find?_of_perm h ?_
    intro a ha b hb
    exact List.inj_on_of_nodup_map hd ha.1 hb.1 (htest a b ha.2 hb.2)
  refine ⟨hname, ?_, ?_⟩
  · intro key
    rw [attribute?_eq, attribute?_eq, hfind]
    intro a b ha hb
    rw [← eq_of_beq ha, eq_of_beq hb]
  · intro name
    rw [attributeInAnyCase?, attributeInAnyCase?, hfind]
    intro a b ha hb
    exact (eq_of_beq ha).trans (eq_of_beq hb).symm

end Place

theorem AttributeTest.holds_eq (t : AttributeTest) (p : Place) :
    t.holds p = match p.attributeInAnyCase? t.name with
      | none => false
      | some a =>
        t.comparison.holds (if t.loose then Text.alike else (· == ·)) t.value a.text.toList := by
  unfold AttributeTest.holds Place.attributeInAnyCase?
  cases p.attributes.find? _ <;> rfl

namespace Selector

def isLocal : Selector → Bool
  | .any | .named _ | .identified _ | .classed _ | .attribute _ => true
  | .firstChild | .lastChild | .related .. => false
  | .both a b | .either a b => a.isLocal && b.isLocal
  | .no a => a.isLocal

theorem holds_congr {s : Selector} (hs : s.isLocal = true) {p q : Place} (h : p.Agrees q) :
    s.holds p = s.holds q := by
  induction s with
  | any => rfl
  | named name => rw [holds, holds, h.name]
  | identified id => rw [holds, holds, h.spelled]
  | classed name =>
    have hclasses : p.classes = q.classes := by rw [Place.classes, Place.classes, h.spelled]
    rw [holds, holds, hclasses]
  | «attribute» test => rw [holds, holds, test.holds_eq, test.holds_eq, h.inAnyCase]
  | firstChild | lastChild | related => contradiction
  | both a b iha ihb =>
    rw [isLocal, Bool.and_eq_true] at hs
    rw [holds, holds, iha hs.1, ihb hs.2]
  | either a b iha ihb =>
    rw [isLocal, Bool.and_eq_true] at hs
    rw [holds, holds, iha hs.1, ihb hs.2]
  | no a ih => rw [holds, holds, ih hs]

theorem filter_paired {s : Selector} (hs : s.isLocal = true) {R : Place → Place → Prop}
    (hR : ∀ p q, R p q → p.Agrees q) {ps qs : List Place} (h : List.Forall₂ R ps qs) :
    List.Forall₂ (fun p q => R p q ∧ s.holds p = true) (ps.filter s.holds)
      (qs.filter s.holds) := by
  induction h with
  | nil => exact .nil
  | @cons p q ps qs hpq _ ih =>
    rw [List.filter_cons, List.filter_cons, ← holds_congr hs (hR p q hpq)]
    cases hp : s.holds p with
    | true => exact .cons ⟨hpq, hp⟩ ih
    | false => exact ih

/-- The elements picked in one document stand for those picked in the other, in order. -/
theorem select_paired {s : Selector} (hs : s.isLocal = true) {R : Place → Place → Prop}
    (hR : ∀ p q, R p q → p.Agrees q) {page other : Place}
    (h : List.Forall₂ R page.descendants other.descendants) :
    List.Forall₂ (fun p q => R p q ∧ s.holds p = true) (s.select page) (s.select other) :=
  filter_paired hs hR h

end Selector
end LinkPreview
