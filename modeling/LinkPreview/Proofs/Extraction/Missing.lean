import LinkPreview.Proofs.Extraction.Extension
import LinkPreview.Proofs.Text.Pieces
import Mathlib.Data.List.Nodup

/-! The report of the fields that are missing. Resolving and reporting go down a tree one after the
other, and fields are filled in between, but the report lists the leaves whose paths lead nowhere
in the fields of the end. -/
set_option autoImplicit false

namespace LinkPreview
open Text

namespace Value

theorem follow?_cons (fields : Fields) (key : String) (path : List String) :
    (record fields).follow? (key :: path) = (fields.get? key).bind (follow? path) := rfl

theorem follow?_fieldsOf (fields : Fields) (key : String) {path : List String} (h : path ≠ []) :
    (record (RuleTree.fieldsOf (fields.get? key))).follow? path =
      (record fields).follow? (key :: path) := by
  rw [follow?_cons]
  cases path with
  | nil => contradiction
  | cons first path =>
    cases fields.get? key with
    | none => rfl
    | some v => cases v <;> rfl

end Value

namespace RuleTree
variable {tree : RuleTree} {fields : Fields} {path : List String}

def paths (tree : RuleTree) : List (List String) := tree.leaves.map (·.1)

theorem paths_rules (key : String) (set : RuleSet) (rest : RuleTree) :
    (rules key set rest).paths = [key] :: rest.paths := rfl

theorem paths_group (key : String) (inner rest : RuleTree) :
    (group key inner rest).paths = inner.paths.map (key :: ·) ++ rest.paths := by
  simp only [paths, leaves, List.map_append, List.map_map]
  rfl

theorem mem_paths_iff (hd : tree.Distinct) :
    path ∈ tree.paths ↔ ∃ set, tree.follow? path = some (.rules set) := by
  simp only [paths, List.mem_map, Prod.exists, exists_and_right, exists_eq_right,
    mem_leaves_iff hd]

theorem nil_not_mem_paths (tree : RuleTree) : [] ∉ tree.paths := by
  induction tree with
  | empty => exact List.not_mem_nil
  | rules key set rest ih => simpa [paths_rules] using ih
  | group key inner rest _ ih => simpa [paths_group] using ih
  | value key v rest ih => exact ih

theorem nodup_paths (hd : tree.Distinct) : tree.paths.Nodup := by
  induction tree with
  | empty => exact List.nodup_nil
  | rules key set rest ih =>
    obtain ⟨hk, hrest⟩ := hd
    rw [paths_rules, List.nodup_cons, mem_paths_iff hrest, follow?_cons, get?_eq_none_iff.2 hk]
    exact ⟨by simp, ih hrest⟩
  | group key inner rest hinner ih =>
    obtain ⟨hk, hdi, hrest⟩ := hd
    rw [paths_group, List.nodup_append]
    refine ⟨(hinner hdi).map List.cons_injective, ih hrest, ?_⟩
    rintro path hp other ho rfl
    obtain ⟨below, -, rfl⟩ := List.mem_map.1 hp
    rw [mem_paths_iff hrest, follow?_cons, get?_eq_none_iff.2 hk] at ho
    simp at ho
  | value key v rest ih => exact ih hd.2

/-- The paths of rule sets that lead nowhere in some fields. -/
def unfollowed (tree : RuleTree) (fields : Fields) : List (List String) :=
  tree.paths.filter fun path => ((Value.record fields).follow? path).isNone

theorem mem_unfollowed_iff (hd : tree.Distinct) : path ∈ tree.unfollowed fields ↔
    (∃ set, tree.follow? path = some (.rules set)) ∧ (Value.record fields).follow? path = none := by
  rw [unfollowed, List.mem_filter, mem_paths_iff hd, Option.isNone_iff_eq_none]

theorem ne_nil_of_mem_unfollowed (h : path ∈ tree.unfollowed fields) : path ≠ [] := by
  rintro rfl
  exact nil_not_mem_paths tree (List.mem_of_mem_filter h)

theorem unfollowed_rules (key : String) (set : RuleSet) (rest : RuleTree) (fields : Fields) :
    (rules key set rest).unfollowed fields =
      (if fields.has key then [] else [[key]]) ++ rest.unfollowed fields := by
  rw [unfollowed, paths_rules, List.filter_cons, ← unfollowed, Value.follow?_cons,
    Fields.has_eq_isSome]
  cases fields.get? key <;> rfl

theorem unfollowed_group (key : String) (inner rest : RuleTree) (fields : Fields) :
    (group key inner rest).unfollowed fields =
      (inner.unfollowed (fieldsOf (fields.get? key))).map (key :: ·) ++
        rest.unfollowed fields := by
  rw [unfollowed, paths_group, List.filter_append, ← unfollowed, unfollowed, List.filter_map]
  refine congrArg (· ++ _) (congrArg _ (List.filter_congr ?_))
  intro path hp
  have hne : path ≠ [] := fun he => nil_not_mem_paths inner (he ▸ hp)
  rw [Value.follow?_fieldsOf fields key hne]
  rfl

/-- What is listed as missing are the paths that lead nowhere. -/
theorem missing_eq (tree : RuleTree) (above : String) (fields : Fields) :
    tree.missing above fields = (tree.unfollowed fields).map fun path => above ++ dotted path := by
  induction tree generalizing above fields with
  | empty => rfl
  | rules key set rest ih =>
    rw [missing, unfollowed_rules, List.map_append, ih]
    split <;> simp
  | group key inner rest hinner ih =>
    rw [missing, unfollowed_group, List.map_append, List.map_map, ih, hinner]
    refine congrArg (· ++ _) (List.map_congr_left ?_)
    intro path hp
    have hne : path ≠ [] := ne_nil_of_mem_unfollowed hp
    simp [dotted_cons hne, String.append_assoc]
  | value key v rest ih => exact ih above fields

def Dotless : RuleTree → Prop
  | .empty => True
  | .rules key _ rest | .value key _ rest => '.' ∉ key.toList ∧ rest.Dotless
  | .group key inner rest => '.' ∉ key.toList ∧ inner.Dotless ∧ rest.Dotless

theorem dotless_cons {key : String} {node : RuleNode} {rest : RuleTree} :
    (cons key node rest).Dotless ↔ '.' ∉ key.toList ∧
      (∀ inner, node = .group inner → inner.Dotless) ∧ rest.Dotless := by
  cases node <;> simp [cons, Dotless]

theorem Dotless.of_get? {key : String} {node : RuleNode} (hn : tree.Dotless)
    (h : tree.get? key = some node) :
    '.' ∉ key.toList ∧ ∀ inner, node = .group inner → inner.Dotless := by
  induction tree using consInduction with
  | empty => simp at h
  | cons k old rest _ ih =>
    obtain ⟨hk, hnode, hrest⟩ := dotless_cons.1 hn
    rw [get?_cons] at h
    split at h
    case isTrue he =>
      subst he
      cases h
      exact ⟨hk, hnode⟩
    case isFalse => exact ih hrest h

theorem Dotless.of_follow? {node : RuleNode} (hn : tree.Dotless)
    (h : tree.follow? path = some node) : ∀ key ∈ path, '.' ∉ key.toList := by
  induction path generalizing tree with
  | nil => simp
  | cons key path ih =>
    rw [follow?_cons] at h
    obtain ⟨first, hf, h⟩ := Option.bind_eq_some_iff.1 h
    obtain ⟨hk, hinner⟩ := hn.of_get? hf
    refine List.forall_mem_cons.2 ⟨hk, ?_⟩
    cases first with
    | group inner => exact ih (hinner inner rfl) h
    | rules set => cases path <;> simp_all [RuleNode.follow?]
    | value v => cases path <;> simp_all [RuleNode.follow?]

/-- Without dots in names, a path is listed under no other name. -/
theorem mem_map_dotted_iff (hd : tree.Distinct) (hn : tree.Dotless) {node : RuleNode}
    (hne : path ≠ []) (hp : tree.follow? path = some node) :
    dotted path ∈ (tree.unfollowed fields).map dotted ↔ path ∈ tree.unfollowed fields := by
  constructor
  · intro hmem
    obtain ⟨other, ho, he⟩ := List.mem_map.1 hmem
    obtain ⟨⟨set, hset⟩, -⟩ := (mem_unfollowed_iff hd).1 ho
    rw [dotted_inj (ne_nil_of_mem_unfollowed ho) hne (hn.of_follow? hset) (hn.of_follow? hp)] at he
    rwa [← he]
  · exact fun hmem => List.mem_map_of_mem hmem

theorem nodup_map_dotted (hd : tree.Distinct) (hn : tree.Dotless) :
    ((tree.unfollowed fields).map dotted).Nodup := by
  have hnodup : (tree.unfollowed fields).Nodup := (nodup_paths hd).filter _
  refine hnodup.map_on ?_
  intro p hp q hq he
  obtain ⟨⟨s, hs⟩, -⟩ := (mem_unfollowed_iff hd).1 hp
  obtain ⟨⟨t, ht⟩, -⟩ := (mem_unfollowed_iff hd).1 hq
  rwa [dotted_inj (ne_nil_of_mem_unfollowed hp) (ne_nil_of_mem_unfollowed hq)
    (hn.of_follow? hs) (hn.of_follow? ht)] at he

end RuleTree

def Event.missing? : Event → Option (List String)
  | .extracted _ _ missing => some missing
  | _ => none

theorem RuleSet.missing?_of_mem_report {page : Place} {context : Context} {set : RuleSet} :
    ∀ event ∈ set.report page context, event.missing? = none := by
  unfold RuleSet.report
  split <;> simp [Event.missing?]

namespace Extraction
variable {page : Place} {context : Context} {tree : RuleTree} {base : Fields}
  {provider : Option Value}

theorem filterMap_missing? (hbase : (tree.resolve page context).result = .ok base)
    (hderive : derive context tree (context.url.getD "") base = .ok provider) :
    (extract page context tree).events.filterMap Event.missing? =
      [(tree.unfollowed (filled context base provider)).map dotted] := by
  have hmatches : (tree.resolve page context).events.filterMap Event.missing? = [] := by
    rw [RuleTree.resolve_events_of_ok hbase, List.filterMap_eq_nil_iff]
    intro event he
    obtain ⟨set, -, he⟩ := List.mem_flatMap.1 he
    exact RuleSet.missing?_of_mem_report event he
  have hurl : (urlEvents (context.url.getD "") base).filterMap Event.missing? = [] := by
    unfold urlEvents
    split <;> rfl
  have hprovider : (provider.toList.map (Event.providerFilled (context.url.getD ""))).filterMap
      Event.missing? = [] := by cases provider <;> rfl
  have hempty : ∀ path, "" ++ dotted path = dotted path := fun path => String.empty_append
  rw [extract_of_resolve hbase, finish_of_derive hderive, List.filterMap_cons]
  simp only [List.filterMap_append, hmatches, hurl, hprovider, RuleTree.missing_eq, hempty,
    Event.missing?, List.nil_append, List.filterMap_cons, List.filterMap_nil]

theorem key_of_added {key : String} {v : Value}
    (h : base.added (filled context base provider) key = some v) :
    key = "url" ∨ key = "provider" := by
  rw [added_filled] at h
  by_cases hb : key ∈ base.keys
  · simp [hb] at h
  · rw [if_neg hb, fallback] at h
    by_cases hu : key = "url"
    · exact .inl hu
    · by_cases hp : key = "provider"
      · exact .inr hp
      · simp [hu, hp] at h

theorem not_mem_of_added (hd : tree.Distinct) {key : String} {v : Value}
    (h : base.added (filled context base provider) key = some v) :
    key ∉ (tree.unfollowed (filled context base provider)).map dotted := by
  intro hmem
  have hdot : '.' ∉ key.toList := by
    rcases key_of_added h with rfl | rfl <;> decide
  obtain ⟨path, hp, he⟩ := List.mem_map.1 hmem
  obtain rfl := eq_singleton_of_dotted (RuleTree.ne_nil_of_mem_unfollowed hp) he hdot
  obtain ⟨-, hnone⟩ := (RuleTree.mem_unfollowed_iff hd).1 hp
  rw [Fields.added] at h
  split at h
  · contradiction
  · rw [Value.follow?_cons, h] at hnone
    contradiction

theorem mem_unfollowed_of_grouped (hd : tree.Distinct)
    (hbase : (tree.resolve page context).result = .ok base) {groups : List String} {key : String}
    {set : RuleSet} (hne : groups ≠ []) (hp : tree.follow? (groups ++ [key]) = some (.rules set))
    (hnone : set.outcome page context = .ok none) :
    groups ++ [key] ∈ tree.unfollowed (filled context base provider) := by
  refine (RuleTree.mem_unfollowed_iff hd).2 ⟨⟨set, hp⟩, ?_⟩
  obtain ⟨found, ho, hf⟩ := RuleTree.exists_outcome_of_follow? hd hbase hp
  obtain rfl : found = none := Except.ok.inj (ho.symm.trans hnone)
  obtain ⟨inner, hi, -⟩ := RuleTree.follow?_concat hp
  obtain ⟨below, hb, -⟩ := RuleTree.follow?_group hd hbase hi
  cases groups with
  | nil => contradiction
  | cons first more =>
    rw [Value.follow?_cons] at hb
    obtain ⟨v, hv, -⟩ := Option.bind_eq_some_iff.1 hb
    have hkey : first ∈ base.keys := by
      rw [← Fields.has_eq_true_iff, Fields.has_eq_isSome, hv]
      rfl
    rw [List.cons_append, follow?_filled provider hkey, ← List.cons_append, hf]
    rfl

end Extraction

/-- What is reported as missing after an extraction that leads from `base` to `found`: the paths of
rule sets that lead nowhere in the end. If no name holds a dot, the list tells them apart. -/
structure Extraction.MissingReported (page : Place) (context : Context) (tree : RuleTree)
    (base found : Fields) (missing : List String) : Prop where
  event : (extract page context tree).events.filterMap Event.missing? = [missing]
  listed : missing = (tree.unfollowed found).map dotted
  leaf : tree.Dotless → ∀ path set, tree.follow? path = some (.rules set) →
    (dotted path ∈ missing ↔ (Value.record found).follow? path = none)
  once : tree.Dotless → missing.Nodup
  other : tree.Dotless → ∀ path node, path ≠ [] → tree.follow? path = some node →
    (∀ set, node ≠ .rules set) → dotted path ∉ missing
  filled : ∀ key v, base.added found key = some v → key ∉ missing
  grouped : ∀ groups key set, groups ≠ [] → tree.follow? (groups ++ [key]) = some (.rules set) →
    set.outcome page context = .ok none → dotted (groups ++ [key]) ∈ missing

theorem extract_missing {page : Place} {context : Context} {tree : RuleTree} {found : Fields}
    (hd : tree.Distinct) (h : (extract page context tree).result = .ok found) :
    ∃ base missing, (tree.resolve page context).result = .ok base ∧
      Extraction.MissingReported page context tree base found missing := by
  obtain ⟨base, provider, hbase, hderive, rfl⟩ := extract_result_eq_ok_iff.1 h
  refine ⟨base, _, hbase, Extraction.filterMap_missing? hbase hderive, rfl, ?_,
    RuleTree.nodup_map_dotted hd, ?_, fun key v => Extraction.not_mem_of_added hd, ?_⟩
  case refine_1 =>
    intro hn path set hp
    have hne : path ≠ [] := by
      rintro rfl
      simp [RuleTree.follow?_nil] at hp
    rw [RuleTree.mem_map_dotted_iff hd hn hne hp, RuleTree.mem_unfollowed_iff hd]
    exact and_iff_right ⟨set, hp⟩
  case refine_2 =>
    intro hn path node hne hp hrules hmem
    rw [RuleTree.mem_map_dotted_iff hd hn hne hp, RuleTree.mem_unfollowed_iff hd] at hmem
    obtain ⟨⟨set, hset⟩, -⟩ := hmem
    exact hrules set (Option.some.inj (hp.symm.trans hset))
  case refine_3 =>
    intro groups key set hne hp hnone
    exact List.mem_map_of_mem (Extraction.mem_unfollowed_of_grouped hd hbase hne hp hnone)

def RuleTree.branched : RuleTree :=
  .rules "title" (.wholeText "title")
    (.group "site"
      (.rules "provider" (.fruitless "provider") (.rules "url" (.fruitless "url") .empty))
      (.rules "provider" (.fruitless "provider") (.value "version" (.text "1") .empty)))

def Extraction.branchedFields : Fields :=
  [("title", .text "A"), ("site", .record []), ("version", .text "1"),
    ("url", .text "http://news.example/a"), ("provider", .text "news")]

theorem extract_branched_missing :
    RuleTree.branched.Distinct ∧ RuleTree.branched.Dotless ∧
      (extract .oneWord .atNews .branched).result = .ok Extraction.branchedFields ∧
      (extract .oneWord .atNews .branched).events.filterMap Event.missing? =
        [["site.provider", "site.url"]] ∧
      ∃ base missing, Extraction.MissingReported .oneWord .atNews .branched base
        Extraction.branchedFields missing := by
  have hd : RuleTree.branched.Distinct := by
    simp [RuleTree.branched, RuleTree.Distinct, RuleTree.keys]
  have hn : RuleTree.branched.Dotless := by simp [RuleTree.branched, RuleTree.Dotless]
  have hfound : (extract .oneWord .atNews .branched).result = .ok Extraction.branchedFields := rfl
  obtain ⟨base, missing, -, hreported⟩ := extract_missing hd hfound
  refine ⟨hd, hn, hfound, ?_, base, missing, hreported⟩
  rw [hreported.event, hreported.listed]
  rfl

end LinkPreview
