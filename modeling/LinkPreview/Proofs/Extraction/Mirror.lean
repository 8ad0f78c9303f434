import LinkPreview.Proofs.Extraction.Tree
import LinkPreview.Proofs.Rule.Report
import LinkPreview.Catalog.Parts

/-! The fields that a tree resolves to mirror the tree: along every path of names, a group has
become a record, a rule set the value that it finds, and any other value is as it was. -/
set_option autoImplicit false

namespace LinkPreview

namespace RuleNode

def follow? : List String → RuleNode → Option RuleNode
  | [], node => some node
  | key :: path, .group inner => (inner.get? key).bind (follow? path)
  | _ :: _, _ => none

end RuleNode

namespace Value

def follow? : List String → Value → Option Value
  | [], v => some v
  | key :: path, .record fields => (Fields.get? fields key).bind (follow? path)
  | _ :: _, _ => none

end Value

namespace RuleTree
variable {page : Place} {context : Context}

def follow? (path : List String) (tree : RuleTree) : Option RuleNode :=
  (RuleNode.group tree).follow? path

/-- Whether a name has a field in the end: all do but those of rule sets without a value. -/
def fills (page : Place) (context : Context) (tree : RuleTree) (key : String) : Bool :=
  match tree.get? key with
  | some (.rules set) =>
    match (runRules page context set).result with
    | .ok none => false
    | _ => true
  | _ => true

theorem resolve_ok (tree : RuleTree)
    (h : ∀ set ∈ tree.ruleSets, ∃ value, (runRules page context set).result = .ok value) :
    ∃ fields, (tree.resolve page context).result = .ok fields := by
  induction tree using consInduction with
  | empty => exact ⟨[], rfl⟩
  | cons key node rest hinner ih =>
    rw [ruleSets_cons] at h
    obtain ⟨others, ho⟩ := ih fun set hs => h set (List.mem_append_right _ hs)
    have hnode : ∃ value, (node.resolve page context).result = .ok value := by
      cases node with
      | rules set => exact h set (by simp [RuleNode.ruleSets])
      | group inner =>
        obtain ⟨fields, hf⟩ := hinner inner rfl fun set hs => h set (List.mem_append_left _ hs)
        exact ⟨_, RuleNode.resolve_group_eq_ok_iff.2 ⟨fields, hf, rfl⟩⟩
      | value v => exact ⟨some v, rfl⟩
    obtain ⟨value, hv⟩ := hnode
    exact ⟨_, resolve_cons_eq_ok_iff.2 ⟨value, others, hv, ho, rfl⟩⟩

theorem mem_keys_of_resolve {tree : RuleTree} {fields : Fields}
    (h : (tree.resolve page context).result = .ok fields) :
    ∀ key ∈ fields.keys, key ∈ tree.keys := by
  induction tree using consInduction generalizing fields with
  | empty =>
    obtain rfl : [] = fields := by simpa [resolve] using h
    simp [Fields.keys]
  | cons k node rest _ ih =>
    obtain ⟨value, others, -, ho, rfl⟩ := resolve_cons_eq_ok_iff.1 h
    intro key hk
    rw [keys_cons, List.mem_cons]
    cases value with
    | none => exact .inr (ih ho key hk)
    | some v =>
      rcases List.mem_cons.1 hk with rfl | hk
      · exact .inl rfl
      · exact .inr (ih ho key hk)

theorem get?_resolve {tree : RuleTree} {fields : Fields} (hd : tree.Distinct)
    (h : (tree.resolve page context).result = .ok fields) {key : String} {node : RuleNode}
    (hn : tree.get? key = some node) :
    (node.resolve page context).result = .ok (fields.get? key) := by
  induction tree using consInduction generalizing fields with
  | empty => simp at hn
  | cons k first rest _ ih =>
    obtain ⟨hk, -, hrest⟩ := distinct_cons.1 hd
    obtain ⟨value, others, hv, ho, rfl⟩ := resolve_cons_eq_ok_iff.1 h
    rw [get?_cons] at hn
    by_cases he : k = key
    · subst he
      obtain rfl : first = node := by simpa using hn
      have hother : k ∉ others.keys := fun hm => hk (mem_keys_of_resolve ho k hm)
      rw [Fields.get?_withField_self hother, hv]
    · rw [if_neg he] at hn
      rw [Fields.get?_withField_of_ne _ _ (Ne.symm he)]
      exact ih hrest ho hn

theorem keys_resolve {tree : RuleTree} {fields : Fields} (hd : tree.Distinct)
    (h : (tree.resolve page context).result = .ok fields) :
    fields.keys = tree.keys.filter (tree.fills page context) := by
  induction tree using consInduction generalizing fields with
  | empty =>
    obtain rfl : [] = fields := by simpa [resolve] using h
    rfl
  | cons k node rest _ ih =>
    obtain ⟨hk, -, hrest⟩ := distinct_cons.1 hd
    obtain ⟨value, others, hv, ho, rfl⟩ := resolve_cons_eq_ok_iff.1 h
    have hothers : rest.keys.filter ((cons k node rest).fills page context) = others.keys := by
      rw [ih hrest ho]
      refine List.filter_congr fun key hmem => ?_
      have hne : k ≠ key := fun he => hk (he ▸ hmem)
      rw [fills, fills, get?_cons, if_neg hne]
    have hfills : (cons k node rest).fills page context k = value.isSome := by
      rw [fills, get?_cons, if_pos rfl]
      cases node with
      | rules set =>
        have hr : (runRules page context set).result = .ok value := hv
        simp only [hr]
        cases value <;> rfl
      | group inner =>
        obtain ⟨below, -, rfl⟩ := RuleNode.resolve_group_eq_ok_iff.1 hv
        rfl
      | value v =>
        obtain rfl := RuleNode.resolve_value_eq_ok_iff.1 hv
        rfl
    rw [keys_cons, List.filter_cons, hothers, hfills, Fields.keys_withField]

theorem nodup_keys_of_resolve {tree : RuleTree} {fields : Fields} (hd : tree.Distinct)
    (h : (tree.resolve page context).result = .ok fields) : fields.keys.Nodup := by
  rw [keys_resolve hd h]
  exact hd.nodup_keys.filter _

theorem follow?_cons (key : String) (path : List String) (tree : RuleTree) :
    tree.follow? (key :: path) = (tree.get? key).bind (RuleNode.follow? path) := rfl

/-- Below a group, a path leads to a group whose fields stand at the end of the path. -/
theorem follow?_group {tree inner : RuleTree} {fields : Fields} {path : List String}
    (hd : tree.Distinct) (h : (tree.resolve page context).result = .ok fields)
    (hp : tree.follow? path = some (.group inner)) :
    ∃ below : Fields, (Value.record fields).follow? path = some (.record below) ∧
      (inner.resolve page context).result = .ok below ∧ inner.Distinct := by
  induction path generalizing tree fields with
  | nil =>
    obtain rfl : tree = inner := by simpa [follow?, RuleNode.follow?] using hp
    exact ⟨fields, rfl, h, hd⟩
  | cons key path ih =>
    rw [follow?_cons] at hp
    obtain ⟨node, hn, hp⟩ := Option.bind_eq_some_iff.1 hp
    have hvalue := get?_resolve hd h hn
    cases node with
    | group next =>
      obtain ⟨middle, hm, hf⟩ := RuleNode.resolve_group_eq_ok_iff.1 hvalue
      obtain ⟨below, hb, hi⟩ := ih (hd.of_get? hn) hm hp
      exact ⟨below, by rw [Value.follow?, ← hf]; exact hb, hi⟩
    | rules set => cases path <;> simp [RuleNode.follow?] at hp
    | value v => cases path <;> simp [RuleNode.follow?] at hp

theorem follow?_concat {tree : RuleTree} {path : List String} {key : String} {node : RuleNode}
    (hp : tree.follow? (path ++ [key]) = some node) :
    ∃ inner, tree.follow? path = some (.group inner) ∧ inner.get? key = some node := by
  induction path generalizing tree with
  | nil =>
    rw [List.nil_append, follow?_cons] at hp
    obtain ⟨n, hn, hp⟩ := Option.bind_eq_some_iff.1 hp
    obtain rfl : n = node := by simpa [RuleNode.follow?] using hp
    exact ⟨tree, rfl, hn⟩
  | cons first path ih =>
    rw [List.cons_append, follow?_cons] at hp
    obtain ⟨n, hn, hp⟩ := Option.bind_eq_some_iff.1 hp
    cases n with
    | group next =>
      obtain ⟨inner, hi, hk⟩ := ih hp
      exact ⟨inner, by rw [follow?_cons, hn]; exact hi, hk⟩
    | rules set => cases path <;> simp [RuleNode.follow?] at hp
    | value v => cases path <;> simp [RuleNode.follow?] at hp

/-- A tree whose rule sets all run has fields. Where a path leads to a rule set, its group has
become a record with the value found, which is not empty, or without a field if there is none;
groups have become records with the names of the group in order; other values are as they were. -/
theorem resolve_mirrors (tree : RuleTree) (page : Place) (context : Context)
    (hd : tree.Distinct)
    (h : ∀ set ∈ tree.ruleSets, ∃ m found,
      set.build = .ok m ∧ m.run page context = .ok found) :
    ∃ fields, (tree.resolve page context).result = .ok fields ∧
      (∀ path key set, tree.follow? (path ++ [key]) = some (.rules set) →
        ∃ (m : Matcher) (found : Option Match) (below : Fields),
          set.build = .ok m ∧ m.run page context = .ok found ∧
          (Value.record fields).follow? path = some (.record below) ∧
          below.get? key = found.map (·.value) ∧
          ∀ v, below.get? key = some v → v.isEmpty = false) ∧
      (∀ path inner, tree.follow? path = some (.group inner) →
        ∃ below : Fields, (Value.record fields).follow? path = some (.record below) ∧
          below.keys = inner.keys.filter (inner.fills page context)) ∧
      ∀ path key v, tree.follow? (path ++ [key]) = some (.value v) →
        ∃ below : Fields, (Value.record fields).follow? path = some (.record below) ∧
          below.get? key = some v := by
  have hruns : ∀ set ∈ tree.ruleSets, ∃ value, (runRules page context set).result = .ok value := by
    intro set hs
    obtain ⟨m, found, hm, hf⟩ := h set hs
    exact ⟨_, runRules_result_eq_ok_iff.2 ⟨m, found, hm, hf, rfl⟩⟩
  obtain ⟨fields, hfields⟩ := resolve_ok tree hruns
  refine ⟨fields, hfields, ?_, ?_, ?_⟩
  · intro path key set hp
    obtain ⟨inner, hi, hk⟩ := follow?_concat hp
    obtain ⟨below, hb, hr, hdi⟩ := follow?_group hd hfields hi
    have hvalue : (runRules page context set).result = .ok (below.get? key) :=
      get?_resolve hdi hr hk
    obtain ⟨m, found, hm, hf, hg⟩ := runRules_result_eq_ok_iff.1 hvalue
    refine ⟨m, found, below, hm, hf, hb, hg.symm, ?_⟩
    intro v hv
    rw [← hg] at hv
    obtain ⟨f, rfl, rfl⟩ := Option.map_eq_some_iff.1 hv
    exact Matcher.run_not_empty hf
  · intro path inner hp
    obtain ⟨below, hb, hr, hdi⟩ := follow?_group hd hfields hp
    exact ⟨below, hb, keys_resolve hdi hr⟩
  · intro path key v hp
    obtain ⟨inner, hi, hk⟩ := follow?_concat hp
    obtain ⟨below, hb, hr, hdi⟩ := follow?_group hd hfields hi
    exact ⟨below, hb, (RuleNode.resolve_value_eq_ok_iff.1 (get?_resolve hdi hr hk)).symm⟩

def smallTree : RuleTree :=
  .rules "title" ⟨"title", [.rule (some .root) (some .text)], [.strip], none⟩
    (.group "more"
      (.rules "image" ⟨"image", [.rule (some (.function fun _ => .ok [])) (some .text)], [], none⟩
        .empty)
      (.value "language" (.text "en") .empty))

theorem resolve_smallTree_mirrors :
    smallTree.Distinct ∧
      (∀ set ∈ smallTree.ruleSets, ∃ m found,
        set.build = .ok m ∧ m.run (.document (.text " A " .nil)) (.ofUrl none) = .ok found) ∧
      ∃ fields below : Fields,
        (smallTree.resolve (.document (.text " A " .nil)) (.ofUrl none)).result = .ok fields ∧
        fields.keys = ["title", "more", "language"] ∧
        (Value.record fields).follow? ["more"] = some (.record below) ∧
        below.get? "image" = none := by
  have hd : smallTree.Distinct := by simp [smallTree, Distinct, keys]
  have hruns : ∀ set ∈ smallTree.ruleSets, ∃ m found, set.build = .ok m ∧
      m.run (.document (.text " A " .nil)) (.ofUrl none) = .ok found := by
    intro set hs
    rcases List.mem_cons.1 hs with rfl | hs
    · exact ⟨_, some ⟨.text "A", 0, none⟩, rfl, rfl⟩
    · obtain rfl := List.mem_singleton.1 hs
      exact ⟨_, none, rfl, rfl⟩
  obtain ⟨fields, hf, hleaf, hgroup, -⟩ := resolve_mirrors smallTree _ _ hd hruns
  obtain ⟨top, ht, hkeys⟩ := hgroup [] smallTree rfl
  obtain rfl : fields = top := by simpa [Value.follow?] using ht
  obtain ⟨m, found, below, hm, hrun, hb, hget, -⟩ := hleaf ["more"] "image" _ rfl
  obtain rfl := Except.ok.inj hm
  obtain rfl : none = found := Except.ok.inj hrun
  exact ⟨hd, hruns, fields, below, hf, hkeys, hb, hget⟩

end RuleTree
end LinkPreview
