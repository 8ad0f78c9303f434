import LinkPreview.Proofs.Icon.Extent
import LinkPreview.Proofs.Rule.Preference

/-! Icons that are chosen by their sizes. One of a concrete size comes before one of any size, and
that before one without a size. An area of zero counts as no size. -/
set_option autoImplicit false

namespace LinkPreview

namespace Place

def DeclaresArea (element : Place) : Prop := ∃ size ∈ element.sizes, size.IsArea

def DeclaresConcrete (element : Place) : Prop := ∃ size ∈ element.sizes, size.IsConcrete

def DeclaresAny (element : Place) : Prop := .any ∈ element.sizes

instance (element : Place) : Decidable element.DeclaresArea :=
  inferInstanceAs (Decidable (∃ size ∈ element.sizes, size.IsArea))

instance (element : Place) : Decidable element.DeclaresConcrete :=
  inferInstanceAs (Decidable (∃ size ∈ element.sizes, size.IsConcrete))

theorem DeclaresConcrete.declaresArea {element : Place} (h : element.DeclaresConcrete) :
    element.DeclaresArea := by
  obtain ⟨size, hs, hc⟩ := h
  exact ⟨size, hs, IconSize.Size.isArea_of_isConcrete hc⟩

end Place

namespace Candidate

def extent (c : Candidate) : Amount := Number.finite c.element.extent

theorem lt_extent_iff {q : ℚ} {c : Candidate} :
    Number.finite q < c.extent ↔ q < c.element.extent := Number.finite_lt_finite _ _

variable {first best : Candidate} {more cs : List Candidate}

theorem exists_score_of_challenge {score : Scorer} {v : Value} {s : Option Number}
    {found : Value × Option Number} (h : challenge score v s more = .ok found) :
    ∀ c ∈ more, ∃ t, score c.value c.element = .ok t := by
  induction more generalizing v s with
  | nil => simp
  | cons c more ih =>
    obtain ⟨t, ht, h⟩ := bind_eq_ok.1 h
    obtain ⟨better, -, h⟩ := bind_eq_ok.1 h
    refine List.forall_mem_cons.2 ⟨⟨t, ht⟩, ?_⟩
    cases better with
    | true => exact ih h
    | false => exact ih h

theorem best_iconSize {found : Value × Option Number}
    (h : Candidate.best .iconSize first more = .ok found) :
    ∃ best n, Greatest extent (first :: more) best ∧ n.amount? = some best.extent ∧
      found = (best.value, some n) := by
  have hscored : ∀ c ∈ first :: more, ∃ t, Scorer.iconSize c.value c.element = .ok t := by
    obtain ⟨s, hs, h⟩ := bind_eq_ok.1 h
    exact List.forall_mem_cons.2 ⟨⟨s, hs⟩, exists_score_of_challenge h⟩
  have hnumber : ∀ c, ∃ n : Number, c ∈ first :: more →
      Scorer.iconSize c.value c.element = .ok (some n) ∧ n.amount? = some c.extent := by
    intro c
    by_cases hc : c ∈ first :: more
    · obtain ⟨t, ht⟩ := hscored c hc
      obtain ⟨n, rfl, hn⟩ := Scorer.iconSize_eq_ok ht
      exact ⟨n, fun _ => ⟨ht, hn⟩⟩
    · exact ⟨.nan, fun hmem => absurd hmem hc⟩
  choose number hnumber using hnumber
  obtain ⟨best, hgreatest, hbest⟩ := best_greatest hnumber
  exact ⟨best, number best, hgreatest, (hnumber best hgreatest.mem).2,
    Except.ok.inj (h.symm.trans hbest)⟩

theorem Greatest.lt_of_exists {q : ℚ} (h : Greatest extent cs best)
    (hex : ∃ c ∈ cs, q < c.element.extent) : q < best.element.extent := by
  obtain ⟨c, hc, hlt⟩ := hex
  exact lt_extent_iff.1 (lt_of_lt_of_le (lt_extent_iff.2 hlt) (h.le c hc))

theorem Greatest.declaresConcrete (h : Greatest extent cs best)
    (hex : ∃ c ∈ cs, c.element.DeclaresConcrete) : best.element.DeclaresConcrete := by
  refine Place.half_lt_extent_iff.1 (h.lt_of_exists ?_)
  obtain ⟨c, hc, hconcrete⟩ := hex
  exact ⟨c, hc, Place.half_lt_extent_iff.2 hconcrete⟩

/-- An area is only passed over if all the areas are zero. -/
theorem Greatest.declaresArea (h : Greatest extent cs best) :
    best.element.DeclaresArea ∨ ∀ c ∈ cs, ¬ c.element.DeclaresConcrete := by
  by_cases hex : ∃ c ∈ cs, c.element.DeclaresConcrete
  · exact .inl (h.declaresConcrete hex).declaresArea
  · push Not at hex
    exact .inr hex

theorem Greatest.declaresAny (h : Greatest extent cs best)
    (hno : ∀ c ∈ cs, ¬ c.element.DeclaresConcrete) (hex : ∃ c ∈ cs, c.element.DeclaresAny) :
    best.element.DeclaresAny := by
  have hpos : 0 < best.element.extent := by
    refine h.lt_of_exists ?_
    obtain ⟨c, hc, hany⟩ := hex
    exact ⟨c, hc, Place.extent_pos_iff.2 (.inl hany)⟩
  exact (Place.extent_pos_iff.1 hpos).resolve_right (hno best h.mem)

end Candidate

namespace RuleTree
variable {page : Place} {context : Context} {set : RuleSet}

/-- Of the candidates of the rule that decides, the first of the greatest extent is chosen. It has
a concrete size if one of them has, so that it has an area unless all areas are zero; otherwise it
has any size if one of them has. -/
theorem runRules_prefers_concrete {v : Value} (hs : set.scorer = some .iconSize)
    (h : (runRules page context set).result = .ok (some v)) :
    ∃ before rule after found elements cs best,
      set.Decision page context before rule after found ∧
      rule.target.pick page = .ok elements ∧
      (set.matcher (before ++ rule :: after)).candidates context rule elements = .ok cs ∧
      Candidate.Greatest Candidate.extent cs best ∧ best.value = v ∧
      ((∃ c ∈ cs, c.element.DeclaresConcrete) → best.element.DeclaresConcrete) ∧
      (best.element.DeclaresArea ∨ ∀ c ∈ cs, ¬ c.element.DeclaresConcrete) ∧
      ((∀ c ∈ cs, ¬ c.element.DeclaresConcrete) → (∃ c ∈ cs, c.element.DeclaresAny) →
        best.element.DeclaresAny) := by
  obtain ⟨before, rule, after, found, d, rfl⟩ := exists_decision h
  have hms : (set.matcher (before ++ rule :: after)).scorer = some .iconSize := hs
  obtain ⟨elements, first, more, v, s, hp, hcs, hbest, rfl⟩ :=
    Matcher.exists_best_of_tryRule hms d.tried
  obtain ⟨best, n, hgreatest, -, hfound⟩ := Candidate.best_iconSize hbest
  obtain ⟨rfl, rfl⟩ := Prod.mk.inj hfound
  exact ⟨before, rule, after, _, elements, first :: more, best, d, hp, hcs, hgreatest, rfl,
    hgreatest.declaresConcrete, hgreatest.declaresArea, hgreatest.declaresAny⟩

def linkedIcons : List (String × String) → Forest
  | [] => .nil
  | (href, sizes) :: more =>
    .element ⟨"link", [("href", .single href), ("sizes", .single sizes)]⟩ .nil (linkedIcons more)

def linkRule : Rule := ⟨.function fun page => .ok page.descendants, .ofAttribute "href"⟩

def linkedIcon : RuleSet where
  name := "icon"
  forms := [.rule (some linkRule.target) (some linkRule.extract)]
  processors := []
  scorer := some .iconSize

def linkCandidates (page : Place) : List Candidate :=
  page.descendants.map fun element =>
    ⟨.ofText? ((element.attribute? "href").map Attribute.text), element⟩

def smallPage : Place :=
  .document (linkedIcons [("any.svg", "any"), ("small.png", "1x1 any"), ("zero.png", "0x0")])

theorem runRules_smallPage_prefers_concrete :
    linkedIcon.scorer = some .iconSize ∧
      (runRules smallPage (.ofUrl none) linkedIcon).result = .ok (some (.text "small.png")) ∧
      ∃ cs best, Candidate.Greatest Candidate.extent cs best ∧
        best.value = .text "small.png" ∧ (∃ c ∈ cs, c.element.DeclaresConcrete) ∧
        best.element.DeclaresConcrete := by
  have hfound : (runRules smallPage (.ofUrl none) linkedIcon).result =
      .ok (some (.text "small.png")) := by
    set_option maxRecDepth 10000 in rfl
  have hscorer : linkedIcon.scorer = some .iconSize := rfl
  obtain ⟨before, rule, after, found, elements, cs, best, d, hp, hcs, hgreatest, hvalue,
    hconcrete, -⟩ := runRules_prefers_concrete hscorer hfound
  -- the only rule is the one that decides
  obtain ⟨rfl, rfl, rfl⟩ : before = [] ∧ rule = linkRule ∧ after = [] := by
    have hcheck := d.check
    cases before with
    | nil => simpa [linkedIcon, RuleForm.check, RuleForm.parts?, eq_comm] using hcheck
    | cons first before => simp [linkedIcon] at hcheck
  obtain rfl : smallPage.descendants = elements := Except.ok.inj hp
  obtain rfl : linkCandidates smallPage = cs := Except.ok.inj hcs
  have hex : ∃ c ∈ linkCandidates smallPage, c.element.DeclaresConcrete := by decide +kernel
  exact ⟨hscorer, hfound, _, best, hgreatest, hvalue, hex, hconcrete hex⟩

def zeroPage : Place := .document (linkedIcons [("any.svg", "any"), ("zero.png", "0x0")])

/-- An icon of any size comes before one whose declared area is zero. -/
theorem runRules_zeroPage_prefers_any :
    (runRules zeroPage (.ofUrl none) linkedIcon).result = .ok (some (.text "any.svg")) ∧
      ∃ anyIcon zeroIcon, zeroPage.descendants = [anyIcon, zeroIcon] ∧
        anyIcon.attribute? "href" = some (.single "any.svg") ∧ ¬ anyIcon.DeclaresArea ∧
        zeroIcon.DeclaresArea := by
  refine ⟨?_, _, _, rfl, rfl, ?_, ?_⟩
  · set_option maxRecDepth 2000 in rfl
  · decide +kernel
  · decide +kernel

end RuleTree
end LinkPreview
