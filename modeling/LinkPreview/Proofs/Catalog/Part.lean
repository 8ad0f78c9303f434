import LinkPreview.Proofs.Catalog.Field
import LinkPreview.Proofs.Extraction.Locality

set_option autoImplicit false

namespace LinkPreview

namespace Fields

theorem mem_iff_get? {fields : Fields} (hn : fields.keys.Nodup) {key : String} {v : Value} :
    (key, v) ∈ fields ↔ fields.get? key = some v := by
  induction fields with
  | nil => simp
  | cons field others ih =>
    obtain ⟨k, w⟩ := field
    obtain ⟨hk, hothers⟩ := List.nodup_cons.1 hn
    rw [get?_cons, List.mem_cons, ih hothers]
    by_cases h : key = k
    · subst h
      have habsent : get? others key = none := get?_eq_none_iff.2 hk
      rw [habsent, if_pos rfl]
      simp [eq_comm]
    · simp [h]

theorem perm_of_get? {fields others : Fields} (hn : fields.keys.Nodup)
    (hn' : others.keys.Nodup) (h : ∀ key, fields.get? key = others.get? key) :
    fields.Perm others := by
  rw [List.perm_ext_iff_of_nodup (List.Nodup.of_map _ hn) (List.Nodup.of_map _ hn')]
  intro field
  rw [mem_iff_get? hn, mem_iff_get? hn', h]

end Fields

namespace Catalog
variable {page : Place} {context : Context} {fs gs : List Field}

theorem nodup_keys_of_extract {found : Fields}
    (h : (extract page context (treeOf fs)).result = .ok found) : found.keys.Nodup := by
  obtain ⟨base, provider, hbase, -, rfl⟩ := extract_result_eq_ok_iff.1 h
  exact Extraction.nodup_keys_filled (RuleTree.nodup_keys_of_resolve (distinct_treeOf fs) hbase)

theorem get?_treeOf_part (hgs : ∀ g ∈ gs, g ∈ fields) (hfs : ∀ f ∈ fs, f ∈ gs) {key : String}
    (hkey : key ∈ fs.map (·.name)) : (treeOf gs).get? key = (treeOf fs).get? key := by
  obtain ⟨f, hf, rfl⟩ := List.mem_map.1 hkey
  have hwhole := get?_treeOf_of_unique (hfs f hf) fun g hg he =>
    eq_of_name (hgs g hg) (hgs f (hfs f hf)) he
  have hpart := get?_treeOf_of_unique hf fun g hg he =>
    eq_of_name (hgs g (hfs g hg)) (hgs f (hfs f hf)) he
  rw [hwhole, hpart]

theorem mem_names_of_get? {key : String} {node : RuleNode}
    (h : (treeOf fs).get? key = some node) : key ∈ fs.map (·.name) := by
  refine Decidable.byContradiction fun hn => ?_
  rw [RuleTree.get?_eq_none_iff.2 (mt mem_keys_treeOf.1 hn)] at h
  contradiction

theorem derive_part (hgs : ∀ g ∈ gs, g ∈ fields) (hfs : ∀ f ∈ fs, f ∈ gs) {whole part : Fields}
    (hsame : ∀ key ∈ fs.map (·.name), part.get? key = whole.get? key) {provider : Option Value}
    (h : Extraction.derive context (treeOf gs) (context.url.getD "") whole = .ok provider) :
    Extraction.derive context (treeOf fs) (context.url.getD "") part =
      .ok (if "provider" ∈ fs.map (·.name) then provider else none) := by
  by_cases hp : "provider" ∈ fs.map (·.name)
  · rw [if_pos hp, ← h]
    exact Extraction.derive_congr _ (get?_treeOf_part hgs hfs hp).symm (hsame _ hp)
  · rw [if_neg hp]
    refine Extraction.derive_of_not_asksHost fun url hask => ?_
    obtain ⟨set, hset⟩ := hask.rules
    exact hp (mem_names_of_get? hset)

theorem fallback_part (names : List String) (provider : Option Value) (key : String) :
    Extraction.fallback context (if "provider" ∈ names then provider else none) key =
      if key ∈ names then Extraction.fallback context provider key
      else if key = "url" then Extraction.urlValue (context.url.getD "") else none := by
  unfold Extraction.fallback
  by_cases hp : key = "provider"
  · subst hp
    rfl
  · rw [if_neg hp, if_neg hp, ite_self]

/-- If a page has fields for a list of standard fields, it has the same for a part of the list.
Beyond that, only the URL can be filled in. -/
theorem extract_part (hgs : ∀ g ∈ gs, g ∈ fields) (hfs : ∀ f ∈ fs, f ∈ gs) {found : Fields}
    (h : (extract page context (treeOf gs)).result = .ok found) :
    ∃ part : Fields, (extract page context (treeOf fs)).result = .ok part ∧
      ∀ key, part.get? key = if key ∈ fs.map (·.name) then found.get? key
        else if key = "url" then Extraction.urlValue (context.url.getD "") else none := by
  obtain ⟨base, provider, hbase, hderive, rfl⟩ := extract_result_eq_ok_iff.1 h
  obtain ⟨base', hbase'⟩ := RuleTree.exists_resolve_of_part (distinct_treeOf gs)
    (distinct_treeOf fs) hbase fun key node hn =>
      (get?_treeOf_part hgs hfs (mem_names_of_get? hn)).trans hn
  have hsame : ∀ key ∈ fs.map (·.name), base'.get? key = base.get? key := fun key hkey =>
    RuleTree.get?_resolve_congr (distinct_treeOf fs) (distinct_treeOf gs) hbase' hbase
      (get?_treeOf_part hgs hfs hkey).symm
  have hderive' := derive_part hgs hfs hsame hderive
  refine ⟨_, extract_result_eq_ok_iff.2 ⟨base', _, hbase', hderive', rfl⟩, fun key => ?_⟩
  rw [Extraction.get?_filled, Extraction.get?_filled, fallback_part]
  by_cases hkey : key ∈ fs.map (·.name)
  · rw [if_pos hkey, if_pos hkey, hsame key hkey]
  · have habsent : base'.get? key = none := Fields.get?_eq_none_iff.2 fun hmem =>
      hkey (mem_keys_treeOf.1 (RuleTree.mem_keys_of_resolve hbase' key hmem))
    rw [if_neg hkey, if_neg hkey, habsent, Option.none_or]

theorem extract_same_part (hgs : ∀ g ∈ gs, g ∈ fields) (hfs : ∀ f, f ∈ fs ↔ f ∈ gs)
    {found : Fields} (h : (extract page context (treeOf gs)).result = .ok found) :
    ∃ part : Fields, (extract page context (treeOf fs)).result = .ok part ∧ part.Perm found := by
  obtain ⟨part, hpart, hget⟩ := extract_part hgs (fun f hf => (hfs f).1 hf) h
  -- a list is a part of itself, which tells what can stand under the other names
  obtain ⟨again, hagain, hself⟩ := extract_part hgs (fun g hg => hg) h
  obtain rfl : found = again := Except.ok.inj (h.symm.trans hagain)
  refine ⟨part, hpart, Fields.perm_of_get? (nodup_keys_of_extract hpart)
    (nodup_keys_of_extract h) fun key => ?_⟩
  have hnames : key ∈ fs.map (·.name) ↔ key ∈ gs.map (·.name) := by
    simp only [List.mem_map, hfs]
  calc part.get? key
    _ = if key ∈ fs.map (·.name) then found.get? key else _ := hget key
    _ = if key ∈ gs.map (·.name) then found.get? key else _ := by simp only [hnames]
    _ = found.get? key := (hself key).symm

end Catalog
end LinkPreview
