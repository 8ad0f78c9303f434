import LinkPreview.Proofs.Extraction.Trace

set_option autoImplicit false

namespace LinkPreview

namespace RuleTree
variable {page : Place} {context : Context} {tree other : RuleTree} {base base' : Fields}

theorem get?_resolve_congr (hd : tree.Distinct) (hd' : other.Distinct)
    (h : (tree.resolve page context).result = .ok base)
    (h' : (other.resolve page context).result = .ok base') {key : String}
    (hkey : tree.get? key = other.get? key) : base.get? key = base'.get? key := by
  cases hn : tree.get? key with
  | some node =>
    have hvalue := get?_resolve hd h hn
    rw [get?_resolve hd' h' (hkey ▸ hn)] at hvalue
    exact (Except.ok.inj hvalue).symm
  | none =>
    have hout : key ∉ base.keys := fun hm =>
      get?_eq_none_iff.1 hn (mem_keys_of_resolve h key hm)
    have hout' : key ∉ base'.keys := fun hm =>
      get?_eq_none_iff.1 (hkey ▸ hn) (mem_keys_of_resolve h' key hm)
    rw [Fields.get?_eq_none_iff.2 hout, Fields.get?_eq_none_iff.2 hout']

theorem exists_resolve_of_part (hd : tree.Distinct) (hd' : other.Distinct)
    (h : (tree.resolve page context).result = .ok base)
    (hpart : ∀ key node, other.get? key = some node → tree.get? key = some node) :
    ∃ fields, (other.resolve page context).result = .ok fields := by
  refine resolve_ok other ?_
  intro set hs
  rw [← leaves_sets] at hs
  obtain ⟨⟨path, s⟩, hleaf, rfl⟩ := List.mem_map.1 hs
  have hother : other.follow? path = some (.rules s) := (mem_leaves_iff hd').1 hleaf
  have htree : tree.follow? path = some (.rules s) := by
    cases path with
    | nil => simp [follow?_nil] at hother
    | cons key path =>
      rw [follow?_cons] at hother ⊢
      obtain ⟨node, hn, hp⟩ := Option.bind_eq_some_iff.1 hother
      rw [hpart key node hn]
      exact hp
  obtain ⟨found, hf, -⟩ := exists_outcome_of_follow? hd h htree
  exact ⟨found.map (·.value), by rw [runRules_of_outcome hf]⟩

end RuleTree

namespace Extraction
variable {context : Context} {tree other : RuleTree} {base base' : Fields}

theorem derive_congr (url : String) (htree : tree.get? "provider" = other.get? "provider")
    (hbase : base.get? "provider" = base'.get? "provider") :
    derive context tree url base = derive context other url base' := by
  simp only [derive, RuleTree.hasRules, htree, Fields.has_eq_isSome, hbase]

theorem eq_none_of_derive {provider : Option Value}
    (h : derive context tree (context.url.getD "") base = .ok provider)
    (hn : "provider" ∉ tree.keys) : provider = none := by
  cases provider with
  | none => rfl
  | some v =>
    obtain ⟨url, hask, -⟩ := derive_eq_some_iff.1 h
    obtain ⟨set, hset⟩ := hask.rules
    rw [RuleTree.get?_eq_none_iff.2 hn] at hset
    contradiction

end Extraction

/-- Fields that two trees have under one name are the same if the nodes are. No name is added but
that of the URL, and a tree of some of the nodes, in any order, has fields as well. -/
theorem extract_local {page : Place} {context : Context} {tree other : RuleTree} {found : Fields}
    (hd : tree.Distinct) (hd' : other.Distinct)
    (h : (extract page context tree).result = .ok found) :
    (∀ key ∈ found.keys, key ∈ tree.keys ∨ key = "url") ∧
      (∀ found' : Fields, (extract page context other).result = .ok found' →
        ∀ key, tree.get? key = other.get? key → found.get? key = found'.get? key) ∧
      ((∀ key node, other.get? key = some node → tree.get? key = some node) →
        ∃ found', (extract page context other).result = .ok found') := by
  obtain ⟨base, provider, hbase, hderive, rfl⟩ := extract_result_eq_ok_iff.1 h
  refine ⟨?_, ?_, ?_⟩
  · intro key hk
    rcases Fields.mem_keys_fill hk with hfirst | rfl
    · exact (Fields.mem_keys_fill hfirst).imp_left (RuleTree.mem_keys_of_resolve hbase key)
    · by_cases hp : "provider" ∈ tree.keys
      · exact .inl hp
      · obtain rfl := Extraction.eq_none_of_derive hderive hp
        rw [Extraction.filled, Fields.fill_none] at hk
        exact (Fields.mem_keys_fill hk).imp_left (RuleTree.mem_keys_of_resolve hbase _)
  · intro found' h' key hkey
    obtain ⟨base', provider', hbase', hderive', rfl⟩ := extract_result_eq_ok_iff.1 h'
    have hsame : base.get? key = base'.get? key :=
      RuleTree.get?_resolve_congr hd hd' hbase hbase' hkey
    rw [Extraction.get?_filled, Extraction.get?_filled, hsame]
    by_cases hp : key = "provider"
    · subst hp
      rw [Extraction.derive_congr _ hkey hsame, hderive'] at hderive
      rw [Except.ok.inj hderive]
    · simp only [Extraction.fallback, if_neg hp]
  · intro hpart
    obtain ⟨base', hbase'⟩ := RuleTree.exists_resolve_of_part hd hd' hbase hpart
    by_cases hrules : ∃ set, other.get? "provider" = some (.rules set)
    · obtain ⟨set, hset⟩ := hrules
      have hnode : tree.get? "provider" = other.get? "provider" := by rw [hset, hpart _ _ hset]
      have hfield := RuleTree.get?_resolve_congr hd hd' hbase hbase' hnode
      rw [Extraction.derive_congr _ hnode hfield] at hderive
      exact ⟨_, extract_result_eq_ok_iff.2 ⟨base', provider, hbase', hderive, rfl⟩⟩
    · -- the part has no rule set for a provider, so its host is never asked for
      have hclosed : ∀ u, ¬ Extraction.AsksHost context other base' u :=
        fun u hask => hrules hask.rules
      have hnone := Extraction.derive_of_not_asksHost hclosed
      exact ⟨_, extract_result_eq_ok_iff.2 ⟨base', none, hbase', hnone, rfl⟩⟩

def RuleTree.retitled : RuleTree :=
  .rules "provider" (.fruitless "provider") (.value "title" (.text "B") .empty)

def Extraction.retitledFields : Fields :=
  [("title", .text "B"), ("url", .text "http://news.example/a"), ("provider", .text "news")]

def RuleTree.reversed : RuleTree :=
  .rules "provider" (.fruitless "provider") (.rules "title" (.wholeText "title") .empty)

theorem extract_sparse_local :
    RuleTree.sparse.Distinct ∧ RuleTree.retitled.Distinct ∧ RuleTree.reversed.Distinct ∧
      (extract .oneWord .atNews .sparse).result = .ok Extraction.sparseFields ∧
      (extract .oneWord .atNews .retitled).result = .ok Extraction.retitledFields ∧
      Extraction.sparseFields.get? "provider" = Extraction.retitledFields.get? "provider" ∧
      (∀ key node, RuleTree.reversed.get? key = some node →
        RuleTree.sparse.get? key = some node) ∧
      ∃ found : Fields, (extract .oneWord .atNews .reversed).result = .ok found ∧
        found.get? "title" = some (.text "A") := by
  have hd : RuleTree.sparse.Distinct := by simp [RuleTree.sparse, RuleTree.Distinct, RuleTree.keys]
  have hd' : RuleTree.retitled.Distinct := by
    simp [RuleTree.retitled, RuleTree.Distinct, RuleTree.keys]
  have hd'' : RuleTree.reversed.Distinct := by
    simp [RuleTree.reversed, RuleTree.Distinct, RuleTree.keys]
  have hsparse : (extract .oneWord .atNews .sparse).result = .ok Extraction.sparseFields := rfl
  have hretitled : (extract .oneWord .atNews .retitled).result =
      .ok Extraction.retitledFields := rfl
  have hpart : ∀ key node, RuleTree.reversed.get? key = some node →
      RuleTree.sparse.get? key = some node := by
    intro key node hn
    simp only [RuleTree.reversed, RuleTree.sparse, RuleTree.get?] at hn ⊢
    grind
  obtain ⟨found, hfound⟩ := (extract_local hd hd'' hsparse).2.2 hpart
  refine ⟨hd, hd', hd'', hsparse, hretitled, ?_, hpart, found, hfound, ?_⟩
  · exact (extract_local hd hd' hsparse).2.1 _ hretitled "provider" rfl
  · exact ((extract_local hd hd'' hsparse).2.1 _ hfound "title" rfl).symm

end LinkPreview
