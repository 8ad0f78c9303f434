import LinkPreview.Catalog
import LinkPreview.Proofs.Extraction.Tree
import LinkPreview.Proofs.Rule.Report
import Mathlib.Data.List.Nodup

set_option autoImplicit false

namespace LinkPreview.Catalog

namespace Field

def rule (row : Spot × Source) : Rule := ⟨row.1.target, row.2.extractor⟩

def matcher (f : Field) : Matcher := f.ruleSet.matcher (f.rules.map rule)

theorem build_ruleSet {f : Field} (h : f.rules ≠ []) : f.ruleSet.build = .ok f.matcher := by
  refine RuleSet.build_eq_ok_iff.2 ⟨f.rules.map rule, by simpa using h, ?_, rfl⟩
  simp only [ruleSet, List.map_map]
  rfl

section
variable {f : Field} {page : Place} {context : Context}

theorem runRules_eq_ok_iff (h : f.rules ≠ []) {value : Option Value} :
    (RuleTree.runRules page context f.ruleSet).result = .ok value ↔
      ∃ found, f.matcher.run page context = .ok found ∧ found.map (·.value) = value := by
  rw [RuleTree.runRules_result_eq_ok_iff, build_ruleSet h]
  simp

/-- A field is found by the first of its rows that is not barren. -/
theorem exists_row_of_run {found : Match}
    (h : f.matcher.run page context = .ok (some found)) :
    ∃ before row after, f.rules = before ++ row :: after ∧
      (∀ r ∈ before, (rule r).Barren f.matcher.processors page context) ∧
      ∃ elements, row.1.target.pick page = .ok elements ∧
        ∃ element ∈ elements,
          f.matcher.valueAt context (rule row) element = .ok (some found.value) := by
  obtain ⟨barren, decisive, rest, hrules, hbarren, htried⟩ := Matcher.exists_of_tryFrom_eq_some h
  obtain ⟨before, more, hsplit, rfl, hmore⟩ := List.map_eq_append_iff.1 hrules
  obtain ⟨row, after, rfl, rfl, -⟩ := List.map_eq_cons_iff.1 hmore
  exact ⟨before, row, after, hsplit, fun r hr => hbarren _ (List.mem_map_of_mem hr),
    Matcher.exists_valueAt_of_tryRule htried⟩

end

end Field

section
variable {fs : List Field}

def nodes (fs : List Field) : List (String × RuleNode) :=
  fs.map fun f => (f.name, .rules f.ruleSet)

theorem treeOf_eq_putAll (fs : List Field) : treeOf fs = .putAll .empty (nodes fs) :=
  RuleTree.ofList_eq_putAll (nodes fs)

theorem names_nodes (fs : List Field) : (nodes fs).map (·.1) = fs.map (·.name) := by
  simp [nodes]

theorem distinct_treeOf (fs : List Field) : (treeOf fs).Distinct := by
  rw [treeOf_eq_putAll]
  refine RuleTree.Distinct.putAll trivial ?_
  simp [nodes]

theorem mem_keys_treeOf {key : String} : key ∈ (treeOf fs).keys ↔ key ∈ fs.map (·.name) := by
  rw [treeOf_eq_putAll, RuleTree.mem_keys_putAll, names_nodes]
  simp [RuleTree.keys]

theorem get?_treeOf_of_unique {f : Field} (hf : f ∈ fs) (h : ∀ g ∈ fs, g.name = f.name → g = f) :
    (treeOf fs).get? f.name = some (.rules f.ruleSet) := by
  rw [treeOf_eq_putAll]
  have hpair : (f.name, RuleNode.rules f.ruleSet) ∈ nodes fs := List.mem_map_of_mem hf
  refine RuleTree.get?_putAll hpair ?_
  intro other ho he
  obtain ⟨g, hg, rfl⟩ := List.mem_map.1 ho
  rw [h g hg he]

theorem get?_treeOf (hn : (fs.map (·.name)).Nodup) {f : Field} (hf : f ∈ fs) :
    (treeOf fs).get? f.name = some (.rules f.ruleSet) :=
  get?_treeOf_of_unique hf fun _ hg he => List.inj_on_of_nodup_map hn hg hf he

theorem mem_ruleSets_treeOf {set : RuleSet} (h : set ∈ (treeOf fs).ruleSets) :
    ∃ f ∈ fs, set = f.ruleSet := by
  rw [treeOf_eq_putAll] at h
  rcases RuleTree.mem_ruleSets_putAll h with he | ⟨pair, hp, hs⟩
  · simp [RuleTree.ruleSets] at he
  · obtain ⟨f, hf, rfl⟩ := List.mem_map.1 hp
    exact ⟨f, hf, by simpa [RuleNode.ruleSets] using hs⟩

end

theorem rules_ne_nil : ∀ f ∈ fields, f.rules ≠ [] := by decide

theorem nodup_names : (fields.map (·.name)).Nodup := by decide

theorem eq_of_name {f g : Field} (hf : f ∈ fields) (hg : g ∈ fields) (h : f.name = g.name) :
    f = g := List.inj_on_of_nodup_map nodup_names hf hg h

theorem of_find? {name : String} {f : Field} (h : find? name = some f) :
    f ∈ fields ∧ f.name = name := by
  have hname := List.find?_some (p := fun g : Field => g.name == name) h
  exact ⟨List.mem_of_find?_eq_some h, eq_of_beq hname⟩

theorem find?_name {f : Field} (hf : f ∈ fields) : find? f.name = some f := by
  obtain ⟨g, hg⟩ : ∃ g, find? f.name = some g :=
    Option.isSome_iff_exists.1 (List.find?_isSome.2 ⟨f, hf, beq_self_eq_true f.name⟩)
  obtain ⟨hmem, hname⟩ := of_find? hg
  rw [hg, eq_of_name hmem hf hname]

end LinkPreview.Catalog
