import LinkPreview.Proofs.Extraction.Trace
import LinkPreview.Proofs.Rule.Calls

set_option autoImplicit false

namespace LinkPreview

namespace Extraction

/-- The fields in the end beside those that the rule sets find. -/
structure Extends (page : Place) (context : Context) (tree : RuleTree) (base found : Fields) :
    Prop where
  kept : ∀ key ∈ base.keys, ∀ path,
    (Value.record found).follow? (key :: path) = (Value.record base).follow? (key :: path)
  group : ∀ path inner, path ≠ [] → tree.follow? path = some (.group inner) →
    ∃ below : Fields, (Value.record found).follow? path = some (.record below) ∧
      (inner.resolve page context).result = .ok below
  named : ∀ key ∈ found.keys, key ∈ base.keys ∨ key = "url" ∨ key = "provider"
  url : ∀ v, base.added found "url" = some v ↔
    "url" ∉ base.keys ∧ ∃ u, context.url = some u ∧ u ≠ "" ∧ v = .text u
  provider : ∀ v, base.added found "provider" = some v ↔
    ∃ u, AsksHost context tree base u ∧
      (context.host (.text u) >>= Provider.ofValue) = .ok v ∧ v.isFalsy = false
  /-- If neither the derivation of a provider nor a processor asks for a host, the reading of
  hosts makes no difference. -/
  host : (∀ u, ¬ AsksHost context tree base u) → ∀ host,
    (∀ set ∈ tree.ruleSets, ∀ process v, set.Gives page context process v →
      process v { context with host := host } = process v context) →
        extract page { context with host := host } tree = extract page context tree

variable {page : Place} {context : Context} {tree : RuleTree} {base : Fields}

theorem follow?_filled (provider : Option Value) {key : String} (hk : key ∈ base.keys)
    (path : List String) :
    (Value.record (filled context base provider)).follow? (key :: path) =
      (Value.record base).follow? (key :: path) := by
  obtain ⟨v, hv⟩ : ∃ v, base.get? key = some v := by
    rw [← Option.isSome_iff_exists, ← Fields.has_eq_isSome]
    exact Fields.has_eq_true_iff.2 hk
  rw [Value.follow?, Value.follow?, get?_filled, hv, Option.some_or]

theorem extract_with_host {host : Value → Except Fault Value}
    (hbase : (tree.resolve page context).result = .ok base)
    (hclosed : ∀ u, ¬ AsksHost context tree base u)
    (h : ∀ set ∈ tree.ruleSets, ∀ process v, set.Gives page context process v →
      process v { context with host := host } = process v context) :
    extract page { context with host := host } tree = extract page context tree := by
  have hresolve : tree.resolve page { context with host := host } = tree.resolve page context :=
    RuleTree.resolve_congr fun set hs => RuleTree.runRules_congr rfl (h set hs)
  have hother : ∀ u, ¬ AsksHost { context with host := host } tree base u :=
    fun u hask => hclosed u ⟨hask.page, hask.not_empty, hask.rules, hask.absent⟩
  have hbase' : (tree.resolve page { context with host := host }).result = .ok base := by
    rw [hresolve, hbase]
  rw [extract_of_resolve hbase, extract_of_resolve hbase', hresolve,
    finish_of_derive (derive_of_not_asksHost hclosed),
    finish_of_derive (derive_of_not_asksHost hother)]
  rfl

end Extraction

theorem extract_extends {page : Place} {context : Context} {tree : RuleTree} {found : Fields}
    (hd : tree.Distinct) (h : (extract page context tree).result = .ok found) :
    ∃ base, (tree.resolve page context).result = .ok base ∧
      Extraction.Extends page context tree base found := by
  obtain ⟨base, provider, hbase, hderive, rfl⟩ := extract_result_eq_ok_iff.1 h
  refine ⟨base, hbase, ?_⟩
  constructor
  case kept => exact fun key hk => Extraction.follow?_filled provider hk
  case group =>
    intro path inner hne hp
    obtain ⟨below, hb, hi, -⟩ := RuleTree.follow?_group hd hbase hp
    refine ⟨below, ?_, hi⟩
    cases path with
    | nil => contradiction
    | cons key path =>
      have hk : key ∈ base.keys := by
        refine Decidable.byContradiction fun hn => ?_
        rw [Value.follow?, Fields.get?_eq_none_iff.2 hn] at hb
        contradiction
      rw [Extraction.follow?_filled provider hk, hb]
  case named =>
    intro key hk
    rcases Fields.mem_keys_fill hk with hk | rfl
    · exact (Fields.mem_keys_fill hk).imp_right .inl
    · exact .inr (.inr rfl)
  case url =>
    intro v
    rw [Extraction.added_url]
    split <;> simp [*, Extraction.urlValue_eq_some_iff]
  case provider =>
    intro v
    rw [Extraction.added_provider hderive, ← Extraction.derive_eq_some_iff, hderive,
      Except.ok.injEq]
  case host => exact fun hclosed host hgiven => Extraction.extract_with_host hbase hclosed hgiven

def RuleTree.claimed : RuleTree :=
  .group "url" (.rules "image" (.fruitless "image") .empty)
    (.rules "provider" (.wholeText "provider") .empty)

theorem extract_claimed_extends :
    RuleTree.claimed.Distinct ∧
      (extract .oneWord .atNews .claimed).result =
        .ok [("url", .record []), ("provider", .text "A")] ∧
      (∃ base, Extraction.Extends .oneWord .atNews .claimed base
        [("url", .record []), ("provider", .text "A")]) ∧
      extract .oneWord { Context.atNews with host := fun _ => .error .mismatch } .claimed =
        extract .oneWord .atNews .claimed := by
  have hd : RuleTree.claimed.Distinct := by
    simp [RuleTree.claimed, RuleTree.Distinct, RuleTree.keys]
  have hfound : (extract .oneWord .atNews .claimed).result =
      .ok [("url", .record []), ("provider", .text "A")] := rfl
  obtain ⟨base, hbase, hextends⟩ := extract_extends hd hfound
  refine ⟨hd, hfound, ⟨base, hextends⟩, hextends.host ?_ _ ?_⟩
  · intro u hask
    obtain rfl : [("url", .record []), ("provider", .text "A")] = base := Except.ok.inj hbase
    exact hask.absent (by simp [Fields.keys])
  · intro set hs process v hgives
    have hmem := hgives.mem_processors
    have hsets : set ∈ [.fruitless "image", .wholeText "provider"] := hs
    rcases List.mem_pair.1 hsets with rfl | rfl
    · exact absurd hmem List.not_mem_nil
    · obtain rfl := List.mem_singleton.1 hmem
      rfl

end LinkPreview
