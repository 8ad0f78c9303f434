import LinkPreview.Proofs.Catalog.PageUrl
import LinkPreview.Proofs.Catalog.Row
import LinkPreview.Proofs.Url.Ends

/-! The icon of a page that may declare none. The rules for links pass over blank references, and
the last rule always has a value, which is not blank whatever URL it is resolved against. -/
set_option autoImplicit false

namespace LinkPreview

namespace Url

theorem read_favicon (scheme : List Char) :
    read scheme "favicon.ico".toList = .ok ⟨scheme, [], "favicon.ico".toList, [], [], []⟩ := by
  have hclean : clean "favicon.ico".toList = "favicon.ico".toList := by decide
  have hscheme : scheme? "favicon.ico".toList = none := by decide
  have hauthority : takeAuthority "favicon.ico".toList = ([], "favicon.ico".toList) := by decide
  rw [read, hclean, hscheme]
  dsimp only [Option.getD_none]
  rw [hauthority]
  dsimp only
  by_cases hp : schemeIn paramSchemes scheme = true
  · rw [if_pos hp]
    rfl
  · rw [if_neg hp]
    rfl

theorem absolute_favicon_not_blank {base w : List Char}
    (h : absolute base "favicon.ico".toList = .ok w) : ∃ c ∈ w, Text.isBlank c = false := by
  rcases absolute_eq_or_resolved (by decide) h with rfl | ⟨b, u, hjoins, rfl⟩
  · exact ⟨'f', by decide, by decide⟩
  · obtain rfl := Except.ok.inj ((read_favicon b.scheme).symm.trans hjoins.reference)
    refine hjoins.not_blank rfl (List.cons_ne_nil _ _) ?_
    intro c hc
    obtain rfl : 'o' = c := Option.some.inj hc
    decide

end Url

namespace Context
variable {url : Option String}

def defaultIcon (url : Option String) : Except Fault Value := resolve url (.text "favicon.ico")

theorem defaultIcon_of_no_url (h : url.getD "" = "") :
    defaultIcon url = .ok (.text "favicon.ico") := by
  unfold defaultIcon resolve
  dsimp only
  rw [h]
  rfl

theorem resolveUrl_favicon (url : Option String) :
    Processor.resolveUrl (.text "favicon.ico") (.ofUrl url) = defaultIcon url := by
  cases url with
  | none => exact (defaultIcon_of_no_url rfl).symm
  | some u =>
    cases hu : u.isEmpty with
    | true =>
      obtain rfl := String.isEmpty_iff.1 hu
      exact (defaultIcon_of_no_url rfl).symm
    | false => exact Processor.resolveUrl_ofUrl hu _

theorem defaultIcon_not_empty {v : Value} (h : defaultIcon url = .ok v) : v.isEmpty = false := by
  obtain ⟨w, hw, rfl⟩ := of_resolve_text h
  obtain ⟨c, hc, hblank⟩ := Url.absolute_favicon_not_blank hw
  rw [Value.isEmpty, ← Bool.not_eq_true, Text.isBlankText_eq_true_iff, String.toList_ofList]
  intro hall
  rw [hall c hc] at hblank
  contradiction

end Context

namespace Catalog

def iconRows : List (Spot × Source) := iconUrl.rules.take 6

def defaultRow : Spot × Source := (.root, .always "favicon.ico")

theorem iconUrl_rules : iconUrl.rules = iconRows ++ [defaultRow] := rfl

def reference? (element : Place) : Option String :=
  (element.attribute? "href").map Attribute.text

/-- The references that are not blank of the elements that a row picks. -/
def references (row : Spot × Source) (page : Place) : List String :=
  match row.1.target.pick page with
  | .ok elements => (elements.filterMap reference?).filter (!Text.isBlankText ·)
  | .error _ => []

section
variable {row : Spot × Source} {page element : Place} {context : Context} {url : Option String}

theorem iconRows_fromAttribute : ∀ row ∈ iconRows, row.2 = .fromAttribute "href" := by decide

theorem mem_rules_of_mem_iconRows (h : row ∈ iconRows) : row ∈ iconUrl.rules :=
  List.mem_of_mem_take h

theorem extract_of_mem_iconRows (h : row ∈ iconRows) (element : Place) :
    (Field.rule row).extract element = .ok (Value.ofText? (reference? element)) := by
  rw [Field.rule, iconRows_fromAttribute row h]
  rfl

theorem mem_references_iff {elements : List Place} (h : row.1.target.pick page = .ok elements)
    {s : String} : s ∈ references row page ↔
      ∃ element ∈ elements, reference? element = some s ∧ Text.isBlankText s = false := by
  simp only [references, h, List.mem_filter, List.mem_filterMap, Bool.not_eq_true']
  grind

theorem barren_of_no_references (hrow : row ∈ iconRows) (h : references row page = []) :
    (Field.rule row).Barren iconUrl.matcher.processors page context := by
  obtain ⟨elements, hp⟩ := Field.exists_pick
    (rows_flat iconUrl (by decide) row (mem_rules_of_mem_iconRows hrow)) page
  refine ⟨elements, hp, fun element he => ?_⟩
  refine ⟨_, extract_of_mem_iconRows hrow element, .inl ?_⟩
  cases hr : reference? element with
  | none => rfl
  | some s =>
    cases hs : Text.isBlankText s with
    | true => exact hs
    | false =>
      have hmem : s ∈ references row page := (mem_references_iff hp).2 ⟨element, he, hr, hs⟩
      rw [h] at hmem
      exact absurd hmem List.not_mem_nil

theorem no_references_of_barren (hrow : row ∈ iconRows)
    (h : (Field.rule row).Barren iconUrl.matcher.processors page (.ofUrl none)) :
    references row page = [] := by
  obtain ⟨elements, hp, hskips⟩ := h
  refine List.eq_nil_iff_forall_not_mem.2 fun s hs => ?_
  obtain ⟨element, he, hr, hblank⟩ := (mem_references_iff hp).1 hs
  have hnone := Matcher.valueAt_eq_none_iff.2 (hskips element he)
  have hsome : iconUrl.matcher.valueAt (.ofUrl none) (Field.rule row) element =
      .ok (some (.text (Text.strip s))) := by
    refine Matcher.valueAt_eq_some_iff.2 ⟨.text s, ?_, hblank, rfl, ?_⟩
    · rw [extract_of_mem_iconRows hrow, hr]
      rfl
    · rw [Value.isEmpty, Text.isBlankText_strip, hblank]
  rw [hnone] at hsome
  simp at hsome

/-- Without a URL, the value at a link is its reference, stripped. -/
theorem exists_reference_of_valueAt (hrow : row ∈ iconRows) {v : Value}
    (h : iconUrl.matcher.valueAt (.ofUrl none) (Field.rule row) element = .ok (some v)) :
    ∃ s, reference? element = some s ∧ Text.isBlankText s = false ∧ v = .text (Text.strip s) := by
  obtain ⟨raw, hraw, hne, hv, -⟩ := Matcher.valueAt_eq_some_iff.1 h
  obtain rfl := Except.ok.inj ((extract_of_mem_iconRows hrow element).symm.trans hraw)
  cases hr : reference? element with
  | none =>
    rw [hr] at hne
    contradiction
  | some s =>
    rw [hr] at hne hv
    exact ⟨s, rfl, hne, (Except.ok.inj hv).symm⟩

theorem processAll_default :
    Matcher.processAll (.ofUrl url) iconUrl.matcher.processors (.text "favicon.ico") =
      Context.defaultIcon url := by
  show (Processor.resolveUrl (.text "favicon.ico") (.ofUrl url) >>= fun v => .ok v) = _
  rw [Context.resolveUrl_favicon]
  cases Context.defaultIcon url <;> rfl

/-- The last row has a value unless the URL of the page cannot be read. -/
theorem valueAt_default :
    iconUrl.matcher.valueAt (.ofUrl url) (Field.rule defaultRow) element =
      (Context.defaultIcon url).map some := by
  have hraw : (Field.rule defaultRow).extract element = .ok (.text "favicon.ico") := rfl
  have hne : ¬(Value.text "favicon.ico").isEmpty = true := by decide
  rw [Matcher.valueAt, hraw, ok_bind, if_neg hne, processAll_default]
  cases hd : Context.defaultIcon url with
  | error fault => rfl
  | ok v =>
    rw [ok_bind, Context.defaultIcon_not_empty hd]
    rfl

theorem tryRule_default (hs : page.attribute? "sizes" = none) (position : Nat) :
    iconUrl.matcher.tryRule (.ofUrl url) page position (Field.rule defaultRow) =
      (Context.defaultIcon url).map fun v =>
        some ⟨v, position, some ⟨1, some (.whole 0)⟩⟩ := by
  have hpick : (Field.rule defaultRow).target.pick page = .ok [page] := rfl
  have hscorer : iconUrl.matcher.scorer = some .iconSize := rfl
  rw [Matcher.tryRule, hpick, ok_bind, hscorer]
  dsimp only
  rw [Matcher.candidates, valueAt_default]
  cases Context.defaultIcon url with
  | error fault => rfl
  | ok v =>
    have hscore : Scorer.iconSize v page = .ok (some (.whole 0)) := by
      rw [Scorer.iconSize, hs]
      rfl
    show (Candidate.best .iconSize ⟨v, page⟩ [] >>= _) = _
    rw [Candidate.best, hscore]
    rfl

theorem not_barren_default :
    ¬(Field.rule defaultRow).Barren iconUrl.matcher.processors page (.ofUrl url) := by
  intro h
  obtain ⟨elements, hp, hnone⟩ := Matcher.barren_iff.1 h
  obtain rfl : [page] = elements := Except.ok.inj hp
  have hvalue := hnone page List.mem_cons_self
  rw [valueAt_default] at hvalue
  cases hd : Context.defaultIcon url with
  | error fault => simp [hd, Except.map] at hvalue
  | ok v => simp [hd, Except.map] at hvalue

end

theorem iconUrl_rules_split {before after : List (Spot × Source)} {row : Spot × Source}
    (h : iconUrl.rules = before ++ row :: after) :
    (before = iconRows ∧ row = defaultRow) ∨ ∃ rest, iconRows = before ++ row :: rest := by
  rw [iconUrl_rules] at h
  rcases List.eq_nil_or_concat after with rfl | ⟨rest, last, rfl⟩
  · obtain ⟨hb, hr⟩ := List.append_inj' h rfl
    exact .inl ⟨hb.symm, (List.singleton_inj.1 hr).symm⟩
  · rw [List.concat_eq_append, ← List.cons_append, ← List.append_assoc] at h
    exact .inr ⟨rest, (List.append_inj' h rfl).1⟩

section
variable {page : Place} {url : Option String} {found : Match}

theorem exists_found_of_run {found : Option Match}
    (h : iconUrl.matcher.run page (.ofUrl url) = .ok found) : ∃ f, found = some f := by
  cases found with
  | some f => exact ⟨f, rfl⟩
  | none =>
    have hall := Matcher.tryFrom_eq_none_iff.1 h
    have hmem : Field.rule defaultRow ∈ iconUrl.matcher.rules :=
      List.mem_map_of_mem (iconUrl_rules ▸ List.mem_append_right _ List.mem_cons_self)
    exact absurd (hall _ hmem) not_barren_default

theorem value_of_no_references (hnone : ∀ row ∈ iconRows, references row page = [])
    (h : iconUrl.matcher.run page (.ofUrl url) = .ok (some found)) :
    Context.defaultIcon url = .ok found.value := by
  obtain ⟨before, row, after, hrules, -, elements, hp, element, he, hv⟩ :=
    Field.exists_row_of_run h
  rcases iconUrl_rules_split hrules with ⟨rfl, rfl⟩ | ⟨rest, hrest⟩
  · rw [valueAt_default] at hv
    cases hd : Context.defaultIcon url with
    | error fault => simp [hd, Except.map] at hv
    | ok v =>
      rw [hd] at hv
      exact congrArg Except.ok (Option.some.inj (Except.ok.inj hv))
  · have hrow : row ∈ iconRows := hrest ▸ List.mem_append_right _ List.mem_cons_self
    obtain ⟨others, ho, hskips⟩ := Matcher.barren_iff.1
      (barren_of_no_references hrow (hnone row hrow) : (Field.rule row).Barren
        iconUrl.matcher.processors page (.ofUrl url))
    obtain rfl := Except.ok.inj (hp.symm.trans ho)
    rw [hskips element he] at hv
    simp at hv

theorem value_of_references (hsome : ∃ row ∈ iconRows, references row page ≠ [])
    (h : iconUrl.matcher.run page (.ofUrl none) = .ok (some found)) :
    ∃ before row after s, iconRows = before ++ row :: after ∧
      (∀ r ∈ before, references r page = []) ∧ s ∈ references row page ∧
      found.value = .text (Text.strip s) := by
  obtain ⟨before, row, after, hrules, hbarren, elements, hp, element, he, hv⟩ :=
    Field.exists_row_of_run h
  have hempty : ∀ r ∈ before, r ∈ iconRows → references r page = [] :=
    fun r hr hrow => no_references_of_barren hrow (hbarren r hr)
  rcases iconUrl_rules_split hrules with ⟨rfl, rfl⟩ | ⟨rest, hrest⟩
  · obtain ⟨r, hr, hne⟩ := hsome
    exact absurd (hempty r hr hr) hne
  · have hmem : ∀ r ∈ before ++ row :: rest, r ∈ iconRows := fun r hr => hrest ▸ hr
    obtain ⟨s, hs, hblank, hvalue⟩ := exists_reference_of_valueAt (hmem row (by simp)) hv
    exact ⟨before, row, rest, s, hrest, fun r hr => hempty r hr (hmem r (by simp [hr])),
      (mem_references_iff hp).2 ⟨element, he, hs, hblank⟩, hvalue⟩

/-- If no link has a reference, only the reading of the URL can fail. -/
theorem run_of_no_references (hnone : ∀ row ∈ iconRows, references row page = [])
    (hs : page.attribute? "sizes" = none) :
    iconUrl.matcher.run page (.ofUrl url) = (Context.defaultIcon url).map fun v =>
      some ⟨v, iconRows.length, some ⟨1, some (.whole 0)⟩⟩ := by
  have hbarren : ∀ rule ∈ iconRows.map Field.rule,
      rule.Barren iconUrl.matcher.processors page (.ofUrl url) := by
    intro rule hr
    obtain ⟨row, hrow, rfl⟩ := List.mem_map.1 hr
    exact barren_of_no_references hrow (hnone row hrow)
  have hrules : iconUrl.matcher.rules = iconRows.map Field.rule ++ [Field.rule defaultRow] := rfl
  rw [Matcher.run, hrules, Matcher.tryFrom_append 0 hbarren, Nat.zero_add, List.length_map,
    Matcher.tryFrom, tryRule_default hs]
  cases Context.defaultIcon url <;> rfl

end

theorem exists_found_of_iconUrl {page : Place} {url : Option String} {value : Option Value}
    (h : (RuleTree.runRules page (.ofUrl url) iconUrl.ruleSet).result = .ok value) :
    ∃ found, iconUrl.matcher.run page (.ofUrl url) = .ok (some found) ∧
      value = some found.value := by
  obtain ⟨found, hrun, rfl⟩ := (Field.runRules_eq_ok_iff (List.cons_ne_nil _ _)).1 h
  obtain ⟨f, rfl⟩ := exists_found_of_run hrun
  exact ⟨f, hrun, rfl⟩

/-- The icon of a page is never left out. It is the default one if no link has a reference, which
can then only fail on the URL of the page. Without a URL it is a reference of the first row that has
one, stripped. -/
theorem runRules_iconUrl (page : Place) (url : Option String) :
    (∀ value, (RuleTree.runRules page (.ofUrl url) iconUrl.ruleSet).result = .ok value →
        value ≠ none ∧
        ((∀ row ∈ iconRows, references row page = []) →
          (url = none ∨ url = some "" → value = some (.text "favicon.ico")) ∧
          ∀ u, url = some u → u ≠ "" → ∃ v,
            Context.resolve (some u) (.text "favicon.ico") = .ok v ∧ value = some v) ∧
        (url = none → (∃ row ∈ iconRows, references row page ≠ []) →
          ∃ before row after s, iconRows = before ++ row :: after ∧
            (∀ r ∈ before, references r page = []) ∧ s ∈ references row page ∧
            value = some (.text (Text.strip s)))) ∧
      ((∀ row ∈ iconRows, references row page = []) → page.attribute? "sizes" = none →
        (RuleTree.runRules page (.ofUrl url) iconUrl.ruleSet).result =
          (Context.resolve url (.text "favicon.ico")).map some) := by
  constructor
  · intro value h
    obtain ⟨found, hrun, rfl⟩ := exists_found_of_iconUrl h
    refine ⟨by simp, fun hnone => ⟨?_, ?_⟩, ?_⟩
    · intro hurl
      have hempty : url.getD "" = "" := by
        rcases hurl with rfl | rfl <;> rfl
      have hvalue := value_of_no_references hnone hrun
      rw [Context.defaultIcon_of_no_url hempty] at hvalue
      rw [Except.ok.inj hvalue]
    · rintro u rfl -
      exact ⟨found.value, value_of_no_references hnone hrun, rfl⟩
    · rintro rfl hsome
      obtain ⟨before, row, after, s, hsplit, hbefore, hs, hvalue⟩ :=
        value_of_references hsome hrun
      exact ⟨before, row, after, s, hsplit, hbefore, hs, congrArg some hvalue⟩
  · intro hnone hs
    rw [RuleTree.runRules_of_build (Field.build_ruleSet (List.cons_ne_nil _ _)),
      run_of_no_references hnone hs, Context.defaultIcon]
    cases Context.resolve url (.text "favicon.ico") <;> rfl

theorem runRules_iconUrl_pages :
    (RuleTree.runRules iconPage (.ofUrl none) iconUrl.ruleSet).result =
        .ok (some (.text "i.png")) ∧
      (∀ row ∈ iconRows, references row (.document .nil) = []) ∧
      (RuleTree.runRules (.document .nil) (.ofUrl (some "http://news.example/a/b?c"))
        iconUrl.ruleSet).result = .ok (some (.text "http://news.example/a/favicon.ico")) := by
  have hnone : ∀ row ∈ iconRows, references row (.document .nil) = [] := by decide +kernel
  refine ⟨?_, hnone, ?_⟩
  · have hok : (RuleTree.runRules iconPage (.ofUrl none) iconUrl.ruleSet).result.isOk = true := by
      decide +kernel
    have hone : ∀ row ∈ iconRows, ∀ s ∈ references row iconPage, s = "i.png" := by decide +kernel
    have hsome : ∃ row ∈ iconRows, references row iconPage ≠ [] := by decide +kernel
    obtain ⟨value, hv⟩ := exists_of_isOk hok
    obtain ⟨-, -, hreference⟩ := (runRules_iconUrl iconPage none).1 value hv
    obtain ⟨before, row, after, s, hrows, -, hs, rfl⟩ := hreference rfl hsome
    obtain rfl := hone row (hrows ▸ List.mem_append_right _ List.mem_cons_self) s hs
    rw [hv]
    rfl
  · rw [(runRules_iconUrl (.document .nil) (some "http://news.example/a/b?c")).2 hnone rfl]
    rfl

end Catalog
end LinkPreview
