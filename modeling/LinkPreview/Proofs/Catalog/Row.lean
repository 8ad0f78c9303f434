import LinkPreview.Proofs.Catalog.Field
import LinkPreview.Proofs.Selector.Local

set_option autoImplicit false

namespace LinkPreview.Catalog

/-- The selector of a row looks at elements alone, and only titles are read for their text. -/
def isFlat : Spot × Source → Bool
  | (.root, source) => source != .fromText
  | (.css css, source) =>
    match Selector.read css with
    | .ok s => s.isLocal && (source != .fromText || s == .named "title".toList)
    | .error _ => false

theorem rows_flat : ∀ f ∈ fields, ∀ row ∈ f.rules, isFlat row = true := by decide +kernel

theorem exists_selector {css : String} {source : Source} (h : isFlat (.css css, source) = true) :
    ∃ s, Selector.read css = .ok s ∧ s.isLocal = true ∧
      (source = .fromText → s = .named "title".toList) := by
  unfold isFlat at h
  cases hs : Selector.read css with
  | error fault => simp [hs] at h
  | ok s =>
    simp only [hs, Bool.and_eq_true, Bool.or_eq_true, bne_iff_ne, beq_iff_eq] at h
    exact ⟨s, rfl, h.1, fun he => h.2.resolve_left fun hne => hne he⟩

theorem pick_css {css : String} {s : Selector} (h : Selector.read css = .ok s) (page : Place) :
    (Target.css css).pick page = .ok (s.select page) := by
  rw [Target.pick, h]
  rfl

theorem Field.exists_pick {row : Spot × Source} (h : isFlat row = true) (page : Place) :
    ∃ elements, (Field.rule row).target.pick page = .ok elements := by
  obtain ⟨spot, source⟩ := row
  cases spot with
  | root => exact ⟨[page], rfl⟩
  | css css =>
    obtain ⟨s, hs, -, -⟩ := exists_selector h
    exact ⟨_, pick_css hs page⟩

end LinkPreview.Catalog
