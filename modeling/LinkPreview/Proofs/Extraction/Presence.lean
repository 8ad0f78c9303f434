import LinkPreview.Proofs.Extraction.Extension
import LinkPreview.Proofs.Provider.Label

/-! No field is there without anything to show, with one exception: the name of a site is derived
from labels of its host that are not empty, and these may still be blank. -/
set_option autoImplicit false

namespace LinkPreview

/-- Hosts are read off URLs as texts, or there is none. -/
def Context.ReadsHosts (context : Context) : Prop :=
  ∀ url host, context.host (.text url) = .ok host → ∃ s, host = Value.ofText? s

namespace Extraction

/-- The host of the page is asked for, and all labels that name its site are blank. -/
def NamelessHost (context : Context) (tree : RuleTree) (base : Fields) : Prop :=
  ∃ url host, AsksHost context tree base url ∧ context.host (.text url) = .ok (.text host) ∧
    ∀ name ∈ Provider.names host.toList, ∀ c ∈ name, Text.isBlank c = true

section
variable {page : Place} {context : Context} {tree : RuleTree} {base : Fields}

theorem isEmpty_derived_iff (hhost : context.ReadsHosts) {v : Value}
    (h : derive context tree (context.url.getD "") base = .ok (some v)) :
    v.isEmpty = true ↔ NamelessHost context tree base := by
  obtain ⟨url, hask, ho, hv⟩ := derive_eq_some_iff.1 h
  obtain ⟨host, hh, ho⟩ := bind_eq_ok.1 ho
  obtain ⟨read, rfl⟩ := hhost url host hh
  obtain ⟨s, rfl, rfl⟩ := Provider.exists_host_of_ofValue hv ho
  rw [Value.isEmpty, Provider.isBlankText_ofHost_iff]
  constructor
  · intro hblank
    exact ⟨url, s, hask, hh, hblank⟩
  · rintro ⟨other, t, hother, ht, hblank⟩
    obtain rfl : url = other := Option.some.inj (hask.page.symm.trans hother.page)
    obtain rfl : s = t := by simpa [hh, Value.ofText?] using ht
    exact hblank

/-- Only a rule set at the top is left without a value and gets one in the end. -/
theorem follow?_filled_of_not_mem (hd : tree.Distinct)
    (hbase : (tree.resolve page context).result = .ok base) {key : String} {path : List String}
    {set : RuleSet} (hp : tree.follow? (key :: path) = some (.rules set)) (hk : key ∉ base.keys)
    (provider : Option Value) :
    path = [] ∧ (Value.record (filled context base provider)).follow? (key :: path) =
      fallback context provider key := by
  rw [RuleTree.follow?_cons] at hp
  obtain ⟨node, hn, hp⟩ := Option.bind_eq_some_iff.1 hp
  cases node with
  | rules s =>
    cases path with
    | nil =>
      refine ⟨rfl, ?_⟩
      rw [Value.follow?, get?_filled, Fields.get?_eq_none_iff.2 hk, Option.none_or]
      cases fallback context provider key <;> rfl
    | cons first path => simp [RuleNode.follow?] at hp
  | group inner =>
    have hvalue := RuleTree.get?_resolve hd hbase hn
    obtain ⟨fields, -, hf⟩ := RuleNode.resolve_group_eq_ok_iff.1 hvalue
    rw [Fields.get?_eq_none_iff.2 hk] at hf
    contradiction
  | value v => cases path <;> simp [RuleNode.follow?] at hp

theorem isEmpty_fallback_iff (hurl : ∀ u, context.url = some u → Text.isBlankText u = false)
    (hhost : context.ReadsHosts) {provider : Option Value}
    (h : derive context tree (context.url.getD "") base = .ok provider) {key : String} {v : Value}
    (hv : fallback context provider key = some v) :
    v.isEmpty = true ↔ key = "provider" ∧ NamelessHost context tree base := by
  by_cases hu : key = "url"
  · subst hu
    obtain ⟨u, hpage, -, rfl⟩ := urlValue_eq_some_iff.1 hv
    simp [Value.isEmpty, hurl u hpage]
  · by_cases hp : key = "provider"
    · subst hp
      obtain rfl : provider = some v := hv
      rw [isEmpty_derived_iff hhost h]
      exact (and_iff_right rfl).symm
    · simp [fallback, hu, hp] at hv

end

end Extraction

theorem RuleTree.isEmpty_resolved {page : Place} {context : Context} {tree : RuleTree}
    {base : Fields} (hd : tree.Distinct) (hbase : (tree.resolve page context).result = .ok base)
    {path : List String} {set : RuleSet} (hp : tree.follow? path = some (.rules set)) {v : Value}
    (hv : (Value.record base).follow? path = some v) : v.isEmpty = false := by
  obtain ⟨found, ho, hf⟩ := exists_outcome_of_follow? hd hbase hp
  rw [hf] at hv
  obtain ⟨m, rfl, rfl⟩ := Option.map_eq_some_iff.1 hv
  obtain ⟨matcher, -, hrun⟩ := bind_eq_ok.1 ho
  exact Matcher.run_not_empty hrun

/-- What stands for a rule set in the end is not empty, nor is a URL that is filled in. A provider
is empty in one case: none is found, and the labels that name the site of the page are blank. -/
theorem extract_present {page : Place} {context : Context} {tree : RuleTree} {found : Fields}
    (hd : tree.Distinct) (hurl : ∀ u, context.url = some u → Text.isBlankText u = false)
    (hhost : context.ReadsHosts) (h : (extract page context tree).result = .ok found) :
    ∃ base, (tree.resolve page context).result = .ok base ∧
      (∀ path set v, tree.follow? path = some (.rules set) →
        (Value.record found).follow? path = some v →
          (v.isEmpty = true ↔
            path = ["provider"] ∧ Extraction.NamelessHost context tree base)) ∧
      ∀ v, base.added found "url" = some v → v.isEmpty = false := by
  obtain ⟨base, provider, hbase, hderive, rfl⟩ := extract_result_eq_ok_iff.1 h
  refine ⟨base, hbase, ?_, ?_⟩
  · intro path set v hp hv
    cases path with
    | nil => simp [RuleTree.follow?_nil] at hp
    | cons key path =>
      by_cases hk : key ∈ base.keys
      · rw [Extraction.follow?_filled provider hk] at hv
        rw [RuleTree.isEmpty_resolved hd hbase hp hv]
        simp only [Bool.false_eq_true, List.cons.injEq, false_iff, not_and]
        -- no provider is derived beside one that is found
        rintro ⟨rfl, -⟩ ⟨url, host, hask, -⟩
        exact hask.absent hk
      · obtain ⟨rfl, hfilled⟩ := Extraction.follow?_filled_of_not_mem hd hbase hp hk provider
        rw [hfilled] at hv
        rw [Extraction.isEmpty_fallback_iff hurl hhost hderive hv, List.cons.injEq,
          and_iff_left rfl]
  · intro v hv
    rw [Extraction.added_filled] at hv
    split at hv
    · contradiction
    · rw [← Bool.not_eq_true, Extraction.isEmpty_fallback_iff hurl hhost hderive hv]
      simp

def Context.atSpace : Context := { Context.atNews with host := fun _ => .ok (.text " .com") }

theorem extract_sparse_present :
    RuleTree.sparse.Distinct ∧
      (∀ u, Context.atSpace.url = some u → Text.isBlankText u = false) ∧
      Context.atSpace.ReadsHosts ∧
      (extract .oneWord .atSpace .sparse).result =
        .ok [("title", .text "A"), ("more", .record []), ("url", .text "http://news.example/a"),
          ("provider", .text " ")] ∧
      (Value.text "A").isEmpty = false ∧
      ∃ base, Extraction.NamelessHost .atSpace .sparse base := by
  have hd : RuleTree.sparse.Distinct := by
    simp [RuleTree.sparse, RuleTree.Distinct, RuleTree.keys]
  have hurl : ∀ u, Context.atSpace.url = some u → Text.isBlankText u = false := by
    intro u hu
    obtain rfl := Option.some.inj hu
    decide
  have hhost : Context.atSpace.ReadsHosts := by
    intro url host hh
    obtain rfl := Except.ok.inj hh
    exact ⟨some " .com", rfl⟩
  have hfound : (extract .oneWord .atSpace .sparse).result =
      .ok [("title", .text "A"), ("more", .record []), ("url", .text "http://news.example/a"),
        ("provider", .text " ")] := rfl
  obtain ⟨base, -, hleaf, -⟩ := extract_present hd hurl hhost hfound
  have htitle := hleaf ["title"] (.wholeText "title") (.text "A") rfl rfl
  have hprovider := hleaf ["provider"] (.fruitless "provider") (.text " ") rfl rfl
  refine ⟨hd, hurl, hhost, hfound, ?_, base, (hprovider.1 (by decide)).2⟩
  rw [Bool.eq_false_iff, Ne, htitle]
  simp

/-- The host of this URL is a space and a top-level domain. -/
theorem extract_spaceHost_provider_blank :
    Text.isBlankText "http:// .com/" = false ∧
      (extract .oneWord (.ofUrl (some "http:// .com/"))
        (.rules "provider" (.fruitless "provider") .empty)).result =
          .ok [("url", .text "http:// .com/"), ("provider", .text " ")] ∧
      (Value.text " ").isEmpty = true := by
  refine ⟨by decide, rfl, by decide⟩

end LinkPreview
