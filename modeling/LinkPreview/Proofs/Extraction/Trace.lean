import LinkPreview.Proofs.Extraction.Leaves
import LinkPreview.Proofs.Extraction.Mirror
import Mathlib.Data.String.Basic

/-! What is reported of an extraction that succeeds: each value that it gives is accounted for
once, by the match of a rule or as filled in. -/
set_option autoImplicit false

namespace LinkPreview

def RuleTree.leaves : RuleTree → List (List String × RuleSet)
  | .empty => []
  | .rules key set rest => ([key], set) :: rest.leaves
  | .group key inner rest => inner.leaves.map (fun leaf => (key :: leaf.1, leaf.2)) ++ rest.leaves
  | .value _ _ rest => rest.leaves

def RuleNode.leaves : RuleNode → List (List String × RuleSet)
  | .rules set => [([], set)]
  | .group inner => inner.leaves
  | .value _ => []

namespace RuleTree
variable {page : Place} {context : Context}

theorem leaves_cons (key : String) (node : RuleNode) (rest : RuleTree) :
    (cons key node rest).leaves =
      node.leaves.map (fun leaf => (key :: leaf.1, leaf.2)) ++ rest.leaves := by
  cases node <;> rfl

theorem leaves_sets (tree : RuleTree) : tree.leaves.map (·.2) = tree.ruleSets := by
  induction tree with
  | empty => rfl
  | rules key set rest ih => simp only [leaves, ruleSets, List.map_cons, ih]
  | group key inner rest hinner ih =>
    simp only [leaves, ruleSets, List.map_append, List.map_map, ← hinner, ← ih]
    rfl
  | value key v rest ih => exact ih

theorem follow?_nil (tree : RuleTree) : tree.follow? [] = some (.group tree) := rfl

theorem follow?_cons_cons (key : String) (node : RuleNode) (rest : RuleTree) (first : String)
    (path : List String) :
    (cons key node rest).follow? (first :: path) =
      if key = first then node.follow? path else rest.follow? (first :: path) := by
  rw [follow?_cons, follow?_cons, get?_cons]
  split <;> rfl

theorem mem_leaves_iff {tree : RuleTree} (hd : tree.Distinct) {path : List String}
    {set : RuleSet} : (path, set) ∈ tree.leaves ↔ tree.follow? path = some (.rules set) := by
  induction tree using consInduction generalizing path with
  | empty => cases path <;> simp [leaves, follow?_nil, follow?_cons]
  | cons key node rest hinner ih =>
    obtain ⟨hk, hnode, hrest⟩ := distinct_cons.1 hd
    have hhere : ∀ below, (below, set) ∈ node.leaves ↔ node.follow? below = some (.rules set) := by
      intro below
      cases node with
      | rules s => cases below <;> simp [RuleNode.leaves, RuleNode.follow?, eq_comm]
      | group inner => exact hinner inner rfl (hnode inner rfl)
      | value v => cases below <;> simp [RuleNode.leaves, RuleNode.follow?]
    rw [leaves_cons, List.mem_append, ih hrest]
    cases path with
    | nil => simp [follow?_nil]
    | cons first below =>
      rw [follow?_cons_cons]
      by_cases he : key = first
      · subst he
        rw [if_pos rfl, ← hhere]
        simp [follow?_cons, get?_eq_none_iff.2 hk]
      · simp [he]

theorem exists_outcome_of_follow? {tree : RuleTree} {fields : Fields} {path : List String}
    {set : RuleSet} (hd : tree.Distinct) (h : (tree.resolve page context).result = .ok fields)
    (hp : tree.follow? path = some (.rules set)) :
    ∃ found, set.outcome page context = .ok found ∧
      (Value.record fields).follow? path = found.map (·.value) := by
  induction path generalizing tree fields with
  | nil => simp [follow?_nil] at hp
  | cons key path ih =>
    rw [follow?_cons] at hp
    obtain ⟨node, hn, hp⟩ := Option.bind_eq_some_iff.1 hp
    have hvalue := get?_resolve hd h hn
    cases node with
    | rules s =>
      cases path with
      | nil =>
        obtain rfl : s = set := by simpa [RuleNode.follow?] using hp
        obtain ⟨m, found, hm, hf, hg⟩ := runRules_result_eq_ok_iff.1 hvalue
        refine ⟨found, bind_eq_ok.2 ⟨m, hm, hf⟩, ?_⟩
        · rw [Value.follow?, ← hg]
          cases found <;> rfl
      | cons first path => simp [RuleNode.follow?] at hp
    | group inner =>
      obtain ⟨below, hb, hg⟩ := RuleNode.resolve_group_eq_ok_iff.1 hvalue
      rw [Value.follow?, ← hg]
      exact ih (hd.of_get? hn) hb hp
    | value v => cases path <;> simp [RuleNode.follow?] at hp

end RuleTree

namespace Extraction

theorem sorted_perm (names : List String) : (sorted names).Perm names := List.mergeSort_perm _ _

theorem sorted_pairwise {names : List String} (h : names.Nodup) :
    (sorted names).Pairwise (· < ·) := by
  have hle : (sorted names).Pairwise fun a b => (!decide (b < a)) = true := by
    refine List.pairwise_mergeSort ?_ ?_ names
    · intro a b c hab hbc
      simp only [Bool.not_eq_true', decide_eq_false_iff_not, not_lt] at hab hbc ⊢
      exact hab.trans hbc
    · intro a b
      simp only [Bool.or_eq_true, Bool.not_eq_true', decide_eq_false_iff_not, not_lt]
      exact le_total a b
  have hne : (sorted names).Pairwise (· ≠ ·) := (sorted_perm names).nodup_iff.2 h
  refine (hle.and hne).imp ?_
  intro a b hab
  simp only [Bool.not_eq_true', decide_eq_false_iff_not, not_lt] at hab
  exact lt_of_le_of_ne hab.1 hab.2

end Extraction

/-- What is reported of an extraction on the way to its fields: the start, a match for each leaf
with a value, what is filled in, and at the end the names of the fields in order. -/
structure Extraction.Recounted (page : Place) (context : Context) (tree : RuleTree)
    (base found : Fields) (present : List String) : Prop where
  events : (extract page context tree).events =
    [.started context.url tree.keys] ++
      tree.leaves.flatMap (fun leaf => leaf.2.report page context) ++
      (base.added found "url").toList.map (fun _ => .urlFilled (context.url.getD "")) ++
      (base.added found "provider").toList.map (.providerFilled (context.url.getD "")) ++
      [.extracted context.url present (tree.missing "" found)]
  leaf : ∀ path set, (path, set) ∈ tree.leaves ↔ tree.follow? path = some (.rules set)
  value : ∀ path set, (path, set) ∈ tree.leaves → ∃ m, set.outcome page context = .ok m ∧
    (Value.record base).follow? path = m.map (·.value)
  url : ∀ v, base.added found "url" = some v → ∃ u, context.url = some u ∧ v = .text u
  provider : ∀ v, base.added found "provider" = some v → ∃ u, context.url = some u ∧
    (context.host (.text u) >>= Provider.ofValue) = .ok v
  names : present.Perm found.keys
  sorted : present.Pairwise (· < ·)

theorem extract_recounted {page : Place} {context : Context} {tree : RuleTree} {found : Fields}
    (hd : tree.Distinct) (h : (extract page context tree).result = .ok found) :
    ∃ base present, (tree.resolve page context).result = .ok base ∧
      Extraction.Recounted page context tree base found present := by
  obtain ⟨base, provider, hbase, hderive, rfl⟩ := extract_result_eq_ok_iff.1 h
  refine ⟨base, Extraction.sorted (Extraction.filled context base provider).keys, hbase, ?_⟩
  constructor
  case events =>
    rw [extract_of_resolve hbase, Extraction.finish_of_derive hderive,
      Extraction.urlEvents_eq provider, Extraction.added_provider hderive,
      RuleTree.resolve_events_of_ok hbase, ← RuleTree.leaves_sets, List.flatMap_map]
    simp only [List.append_assoc, List.cons_append, List.nil_append]
  case leaf => exact fun path set => RuleTree.mem_leaves_iff hd
  case value =>
    intro path set hm
    exact RuleTree.exists_outcome_of_follow? hd hbase ((RuleTree.mem_leaves_iff hd).1 hm)
  case url =>
    intro v hv
    rw [Extraction.added_url] at hv
    split at hv
    · contradiction
    · obtain ⟨u, hu, -, hv⟩ := Extraction.urlValue_eq_some_iff.1 hv
      exact ⟨u, hu, hv⟩
  case provider =>
    intro v hv
    rw [Extraction.added_provider hderive] at hv
    subst hv
    obtain ⟨u, hask, ho, -⟩ := Extraction.derive_eq_some_iff.1 hderive
    exact ⟨u, hask.page, ho⟩
  case names => exact Extraction.sorted_perm _
  case sorted =>
    exact Extraction.sorted_pairwise
      (Extraction.nodup_keys_filled (RuleTree.nodup_keys_of_resolve hd hbase))

def RuleTree.sparse : RuleTree :=
  .rules "title" (.wholeText "title")
    (.group "more" (.rules "image" (.fruitless "image") .empty)
      (.rules "provider" (.fruitless "provider") .empty))

def Context.atNews : Context :=
  ⟨some "http://news.example/a", fun _ v => .ok v, fun _ => .ok (.text "news.example")⟩

def Extraction.sparseFields : Fields :=
  [("title", .text "A"), ("more", .record []), ("url", .text "http://news.example/a"),
    ("provider", .text "news")]

theorem extract_sparse_recounted :
    RuleTree.sparse.Distinct ∧
      (extract .oneWord .atNews .sparse).result = .ok Extraction.sparseFields ∧
      ∃ base present, Extraction.Recounted .oneWord .atNews .sparse base Extraction.sparseFields
        present := by
  have hd : RuleTree.sparse.Distinct := by simp [RuleTree.sparse, RuleTree.Distinct, RuleTree.keys]
  have hfound : (extract .oneWord .atNews .sparse).result = .ok Extraction.sparseFields := rfl
  obtain ⟨base, present, -, hrecounted⟩ := extract_recounted hd hfound
  exact ⟨hd, hfound, base, present, hrecounted⟩

end LinkPreview
