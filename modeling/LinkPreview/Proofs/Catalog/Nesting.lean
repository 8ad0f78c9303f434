import LinkPreview.Proofs.Catalog.Row
import LinkPreview.Proofs.Rule.Pages

/-! The standard fields of a document come from the names and the attributes of its elements, in
document order, and from the texts of its titles. How the elements are nested, and what other
texts and comments there are, makes no difference. -/
set_option autoImplicit false

namespace LinkPreview

/-- Elements that can stand for each other: they agree, and titles have the same text. -/
structure Place.Interchangeable (p q : Place) : Prop extends p.Agrees q where
  title : Text.asciiLower p.name.toList = "title".toList → p.text = q.text

namespace Catalog

section
variable {p q : Place}

theorem Source.extractor_same (source : Source) (h : p.Agrees q)
    (htext : source = .fromText → p.text = q.text) :
    source.extractor p = source.extractor q := by
  cases source with
  | fromAttribute key =>
    simp only [extractor, Extractor.ofAttribute, h.spelled]
  | fromText => simp only [extractor, Extractor.text, htext rfl]
  | always text => rfl

theorem Field.scorer?_same (f : Field) (h : p.Agrees q) : Scorer.Same f.scorer? p q := by
  intro score hs v
  unfold scorer? at hs
  split at hs
  · obtain rfl := Option.some.inj hs
    rw [Scorer.iconSize, Scorer.iconSize, h.spelled]
  · contradiction

end

section
variable {f g : Forest}

theorem document_agrees (f g : Forest) : (Place.document f).Agrees (.document g) :=
  Place.agrees_of_eq rfl rfl

theorem Field.pick_same (field : Field) {row : Spot × Source} (hrow : isFlat row = true)
    (h : List.Forall₂ Place.Interchangeable (Place.document f).descendants
      (Place.document g).descendants) :
    Agree (List.Forall₂ ((Field.rule row).Same field.scorer?))
      ((Field.rule row).target.pick (.document f))
      ((Field.rule row).target.pick (.document g)) := by
  obtain ⟨spot, source⟩ := row
  cases spot with
  | root =>
    have hsource : source ≠ .fromText := by simpa [isFlat] using hrow
    have hroot := document_agrees f g
    refine .ok (.cons ⟨?_, field.scorer?_same hroot⟩ .nil)
    exact source.extractor_same hroot fun he => absurd he hsource
  | css css =>
    obtain ⟨s, hs, hlocal, htitle⟩ := exists_selector hrow
    have hpaired := Selector.select_paired hlocal (fun _ _ hpq => hpq.toAgrees) h
    show Agree _ ((Target.css css).pick _) ((Target.css css).pick _)
    rw [pick_css hs, pick_css hs]
    refine .ok (hpaired.imp ?_)
    intro p q hpq
    obtain ⟨hpq, hholds⟩ := hpq
    refine ⟨source.extractor_same hpq.toAgrees ?_, field.scorer?_same hpq.toAgrees⟩
    intro he
    rw [htitle he, Selector.holds, beq_iff_eq] at hholds
    exact hpq.title hholds

/-- Documents whose elements can stand for each other one by one have the same standard fields,
or the same fault, and the same is reported of both. -/
theorem extract_flat {context : Context}
    (h : List.Forall₂ Place.Interchangeable (Place.document f).descendants
      (Place.document g).descendants) :
    extract (.document f) context tree = extract (.document g) context tree := by
  have hresolve : tree.resolve (.document f) context = tree.resolve (.document g) context := by
    refine RuleTree.resolve_congr fun set hset => ?_
    obtain ⟨field, hf, rfl⟩ := mem_ruleSets_treeOf hset
    refine RuleTree.runRules_same (Field.build_ruleSet (rules_ne_nil field hf)) ?_
    intro rule hrule
    obtain ⟨row, hrow, rfl⟩ := List.mem_map.1 hrule
    exact field.pick_same (rows_flat field hf row hrow) h
  rw [extract, extract, hresolve]

end

def nestedForest : Forest :=
  .element ⟨"html", [("lang", .single "en-GB")]⟩
    (.element ⟨"title", []⟩ (.text "A" .nil)
      (.element ⟨"link", [("rel", .words ["icon"]), ("href", .single "i.png")]⟩ .nil .nil))
    .nil

def flatForest : Forest :=
  .comment "flat" (.element ⟨"html", [("lang", .single "en-GB")]⟩ .nil
    (.element ⟨"title", []⟩ (.comment "first" (.text "A" .nil))
      (.text "B" (.element ⟨"link", [("href", .single "i.png"), ("rel", .words ["icon"])]⟩
        .nil .nil))))

theorem extract_nestedForest_flat :
    List.Forall₂ Place.Interchangeable (Place.document nestedForest).descendants
        (Place.document flatForest).descendants ∧
      extract (.document nestedForest) (.ofUrl none) tree =
        extract (.document flatForest) (.ofUrl none) tree := by
  have hpaired : List.Forall₂ Place.Interchangeable (Place.document nestedForest).descendants
      (Place.document flatForest).descendants := by
    refine .cons ⟨?_, ?_⟩ (.cons ⟨?_, ?_⟩ (.cons ⟨?_, ?_⟩ .nil))
    · exact Place.agrees_of_eq rfl rfl
    · exact fun he => absurd he (by decide)
    · exact Place.agrees_of_eq rfl rfl
    · exact fun _ => rfl
    · exact Place.agrees_of_perm rfl (.swap _ _ _) (by decide)
    · exact fun he => absurd he (by decide)
  exact ⟨hpaired, extract_flat hpaired⟩

end Catalog
end LinkPreview
