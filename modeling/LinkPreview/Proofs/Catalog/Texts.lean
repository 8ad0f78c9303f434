import LinkPreview.Proofs.Catalog.Row
import LinkPreview.Proofs.Extraction.Faults
import LinkPreview.Proofs.Rule.Calls
import LinkPreview.Proofs.Url.Scheme

/-! The parts of the standard fields are only given what they can deal with. Rules read texts, and
the processors and the scorer are given texts, so all that can fail is the reading of a URL or of
a numeral. -/
set_option autoImplicit false

namespace LinkPreview

def Value.IsText (v : Value) : Prop := ∃ s, v = .text s

/-- A fault of what is given, and not of the parts that deal with it. -/
def Fault.OfInput (fault : Fault) : Prop := fault.kind = .value

namespace Context

theorem resolve_faultsIn (base : Option String) (s : String) :
    FaultsIn Fault.OfInput (resolve base (.text s)) := by
  intro fault h
  unfold resolve at h
  dsimp only at h
  split at h
  · contradiction
  · rw [← Except.error.inj h]
    rfl

theorem hostOf_kind {url : String} {host : Value} (h : hostOf (.text url) = .ok host) :
    host = .null ∨ host.IsText := by
  unfold hostOf at h
  dsimp only at h
  split at h
  · rename_i name _
    rw [← Except.ok.inj h]
    cases name with
    | none => exact .inl rfl
    | some name => exact .inr ⟨_, rfl⟩
  · contradiction

theorem hostOf_faultsIn (url : String) :
    FaultsIn Fault.OfInput (hostOf (.text url) >>= Provider.ofValue) := by
  refine FaultsIn.bind ?_ ?_
  · intro fault h
    unfold hostOf at h
    dsimp only at h
    split at h
    · contradiction
    · rw [← Except.error.inj h]
      rfl
  · intro host h
    rcases hostOf_kind h with rfl | ⟨name, rfl⟩
    · exact faultsIn_ok _ _
    · unfold Provider.ofValue
      split <;> exact faultsIn_ok _ _

end Context

namespace IconSize

theorem numeral_faultsIn (digits : List Char) : FaultsIn Fault.OfInput (numeral digits) := by
  intro fault h
  unfold numeral at h
  split at h
  · rw [← Except.error.inj h]
    rfl
  · contradiction

theorem Size.score_faultsIn (size : Size) : FaultsIn Fault.OfInput size.score := by
  cases size with
  | any => exact faultsIn_ok _ _
  | area width height =>
    refine (numeral_faultsIn width).bind fun _ _ => ?_
    exact (numeral_faultsIn height).bind fun _ _ => faultsIn_ok _ _

theorem scoreFrom_faultsIn (best : Number) (words : List (List Char)) :
    FaultsIn Fault.OfInput (scoreFrom best words) := by
  induction words generalizing best with
  | nil => exact faultsIn_ok _ _
  | cons word more ih =>
    unfold scoreFrom
    cases Size.read? word with
    | none => exact ih best
    | some size => exact (size.score_faultsIn).bind fun _ _ => ih _

end IconSize

theorem Scorer.iconSize_confined : Scorer.iconSize.Confined Fault.OfInput := by
  intro v element
  unfold iconSize
  cases element.attribute? "sizes" with
  | none =>
    refine ⟨faultsIn_ok _ _, ?_⟩
    intro s hs
    rw [← Except.ok.inj hs]
    rfl
  | some sizes =>
    refine ⟨(IconSize.scoreFrom_faultsIn _ _).bind fun _ _ => faultsIn_ok _ _, ?_⟩
    intro s hs
    obtain ⟨n, -, hn⟩ := bind_eq_ok.1 hs
    rw [← Except.ok.inj hn]
    rfl

namespace Catalog

section
variable {url : Option String}

theorem Source.reads_text (source : Source) (element : Place) :
    ∃ raw, source.extractor element = .ok raw ∧ (raw = .null ∨ raw.IsText) := by
  cases source with
  | fromAttribute key =>
    refine ⟨_, rfl, ?_⟩
    cases element.attribute? key with
    | none => exact .inl rfl
    | some a => exact .inr ⟨a.text, rfl⟩
  | fromText => exact ⟨_, rfl, .inr ⟨element.text, rfl⟩⟩
  | always text => exact ⟨_, rfl, .inr ⟨text, rfl⟩⟩

theorem Step.faultsIn (step : Step) {v : Value} (hv : v.IsText) :
    FaultsIn Fault.OfInput (step.processor v (.ofUrl url)) := by
  obtain ⟨s, rfl⟩ := hv
  cases step with
  | strip | splitKeywords | primaryLanguage => exact faultsIn_ok _ _
  | resolveUrl =>
    cases url with
    | none => exact faultsIn_ok _ _
    | some u =>
      simp only [processor, Processor.resolveUrl, Context.ofUrl]
      split
      · exact faultsIn_ok _ _
      · exact Context.resolve_faultsIn _ s

theorem Step.keeps_text {step : Step} (hne : step ≠ .splitKeywords) {v w : Value}
    (hv : v.IsText) (h : step.processor v (.ofUrl url) = .ok w) : w.IsText := by
  obtain ⟨s, rfl⟩ := hv
  cases step with
  | splitKeywords => contradiction
  | strip | primaryLanguage => exact ⟨_, (Except.ok.inj h).symm⟩
  | resolveUrl =>
    cases url with
    | none => exact ⟨s, (Except.ok.inj h).symm⟩
    | some u =>
      simp only [processor, Processor.resolveUrl, Context.ofUrl] at h
      split at h
      · exact ⟨s, (Except.ok.inj h).symm⟩
      · obtain ⟨r, -, rfl⟩ := Context.of_resolve_text h
        exact ⟨_, rfl⟩

theorem processAll_text {steps : List Step} (hs : .splitKeywords ∉ steps) {v w : Value}
    (hv : v.IsText)
    (h : Matcher.processAll (.ofUrl url) (steps.map Step.processor) v = .ok w) : w.IsText := by
  induction steps generalizing v with
  | nil =>
    rw [← Except.ok.inj h]
    exact hv
  | cons step more ih =>
    rw [List.mem_cons, not_or] at hs
    obtain ⟨u, hu, h⟩ := bind_eq_ok.1 h
    exact ih hs.2 (Step.keeps_text (Ne.symm hs.1) hv hu) h

/-- Keywords are split in the last step, if at all, so every step is given a text. -/
theorem processAll_faultsIn {steps : List Step} (hs : .splitKeywords ∉ steps.dropLast)
    {v : Value} (hv : v.IsText) :
    FaultsIn Fault.OfInput
      (Matcher.processAll (.ofUrl url) (steps.map Step.processor) v) := by
  induction steps generalizing v with
  | nil => exact faultsIn_ok _ _
  | cons step more ih =>
    refine (step.faultsIn hv).bind ?_
    intro w hw
    cases more with
    | nil => exact faultsIn_ok _ _
    | cons next more =>
      rw [List.dropLast_cons_cons, List.mem_cons, not_or] at hs
      exact ih hs.2 (Step.keeps_text (Ne.symm hs.1) hv hw)

end

theorem splits_last : ∀ f ∈ fields, .splitKeywords ∉ f.steps.dropLast := by decide

theorem scored_not_split : ∀ f ∈ fields, f.scored = true → .splitKeywords ∉ f.steps := by decide

/-- What the parts of a field are given when it is looked for on a page. -/
structure Field.Fits (f : Field) (page : Place) (context : Context) : Prop where
  picks : ∀ rule ∈ f.matcher.rules, ∃ elements, rule.target.pick page = .ok elements
  reads : ∀ rule ∈ f.matcher.rules, ∀ element,
    ∃ raw, rule.extract element = .ok raw ∧ (raw = .null ∨ raw.IsText)
  processes : ∀ process v, f.ruleSet.Gives page context process v → v.IsText
  scores : f.scored = true → ∀ rule ∈ f.matcher.rules, ∀ elements cs,
    f.matcher.candidates context rule elements = .ok cs → ∀ c ∈ cs, c.value.IsText

section
variable {f : Field} {url : Option String} {page : Place}

theorem Field.exists_row {rule : Rule} (h : rule ∈ f.matcher.rules) :
    ∃ row ∈ f.rules, Field.rule row = rule := List.mem_map.1 h

theorem Field.text_of_extract {rule : Rule} (hrule : rule ∈ f.matcher.rules) {element : Place}
    {raw : Value} (h : rule.extract element = .ok raw) (hne : raw.isEmpty = false) :
    raw.IsText := by
  obtain ⟨row, -, rfl⟩ := f.exists_row hrule
  obtain ⟨other, ho, hkind⟩ := row.2.reads_text element
  obtain rfl : other = raw := Except.ok.inj (ho.symm.trans h)
  refine hkind.resolve_left ?_
  rintro rfl
  contradiction

theorem Field.fits (hf : f ∈ fields) (url : Option String) (page : Place) :
    f.Fits page (.ofUrl url) := by
  constructor
  case picks =>
    intro rule hrule
    obtain ⟨row, hrow, rfl⟩ := f.exists_row hrule
    exact Field.exists_pick (rows_flat f hf row hrow) page
  case reads =>
    intro rule hrule element
    obtain ⟨row, -, rfl⟩ := f.exists_row hrule
    exact row.2.reads_text element
  case processes =>
    intro process v hgives
    obtain ⟨m, hm, rule, element, raw, first, last, htries, -, hraw, hne, hsplit, hv⟩ := hgives
    obtain rfl : f.matcher = m :=
      Except.ok.inj ((build_ruleSet (rules_ne_nil f hf)).symm.trans hm)
    obtain ⟨before, after, hrules, -⟩ := htries
    have hrule : rule ∈ f.matcher.rules := by
      rw [hrules]
      exact List.mem_append_right before List.mem_cons_self
    obtain ⟨steps, more, hsteps, rfl, hmore⟩ := List.map_eq_append_iff.1 hsplit
    obtain ⟨step, rest, rfl, -, -⟩ := List.map_eq_cons_iff.1 hmore
    have hs := splits_last f hf
    rw [hsteps, List.dropLast_append_cons, List.mem_append, not_or] at hs
    exact processAll_text hs.1 (text_of_extract hrule hraw hne) hv
  case scores =>
    intro hscored rule hrule elements cs hcs c hc
    obtain ⟨raw, hraw, hne, hv, -⟩ :=
      Matcher.valueAt_eq_some_iff.1 (Matcher.valueAt_of_mem_candidates hcs c hc)
    exact processAll_text (scored_not_split f hf hscored) (text_of_extract hrule hraw hne) hv

theorem Field.confinedAt (hf : f ∈ fields) {rule : Rule} (hrule : rule ∈ f.matcher.rules) :
    f.matcher.ConfinedAt Fault.OfInput page (.ofUrl url) rule := by
  have hfits := f.fits hf url page
  constructor
  case pick =>
    obtain ⟨elements, he⟩ := hfits.picks rule hrule
    rw [he]
    exact faultsIn_ok _ _
  case extract =>
    intro element
    obtain ⟨raw, hr, -⟩ := hfits.reads rule hrule element
    rw [hr]
    exact faultsIn_ok _ _
  case process =>
    intro element raw hraw hne
    exact processAll_faultsIn (splits_last f hf) (text_of_extract hrule hraw hne)

theorem Field.scorer_confined {score : Scorer} (h : f.matcher.scorer = some score) :
    score.Confined Fault.OfInput := by
  change f.scorer? = some score at h
  unfold scorer? at h
  split at h
  · obtain rfl := Option.some.inj h
    exact Scorer.iconSize_confined
  · contradiction

/-- Fields out of the standard ones, looked for with the ordinary reading of URLs, only fail for
what the page or its URL holds. -/
theorem extract_faultsIn_part {fs : List Field} (h : ∀ f ∈ fs, f ∈ fields) :
    FaultsIn Fault.OfInput (extract page (.ofUrl url) (treeOf fs)).result := by
  refine extract_faultsIn ?_ Context.hostOf_faultsIn
  intro set hset
  obtain ⟨f, hf, rfl⟩ := mem_ruleSets_treeOf hset
  have hfield := h f hf
  exact RuleTree.runRules_faultsIn (Field.build_ruleSet (rules_ne_nil f hfield))
    (fun _ => Field.confinedAt hfield) fun _ => Field.scorer_confined

end
end Catalog
end LinkPreview
