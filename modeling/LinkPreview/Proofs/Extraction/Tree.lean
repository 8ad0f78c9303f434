import LinkPreview.Proofs.Outcome
import LinkPreview.Extraction

set_option autoImplicit false

namespace LinkPreview

namespace Fields

def withField (key : String) : Option Value → Fields → Fields
  | none, others => others
  | some v, others => (key, v) :: others

@[simp] theorem get?_nil (key : String) : get? [] key = none := rfl

theorem get?_cons (k : String) (v : Value) (others : Fields) (key : String) :
    get? ((k, v) :: others) key = if key = k then some v else others.get? key := by
  by_cases h : key = k
  · simp [get?, h]
  · have hb : (key == k) = false := by simpa using h
    simp [get?, List.lookup_cons, h, hb]

theorem get?_eq_none_iff {fields : Fields} {key : String} :
    fields.get? key = none ↔ key ∉ fields.keys := by
  induction fields with
  | nil => simp [keys]
  | cons field others ih =>
    obtain ⟨k, v⟩ := field
    rw [get?_cons]
    by_cases h : key = k
    · simp [h, keys]
    · rw [if_neg h, ih]
      simp [keys, h]

theorem get?_withField_self {key : String} {value : Option Value} {others : Fields}
    (h : key ∉ others.keys) : (withField key value others).get? key = value := by
  cases value with
  | none => exact get?_eq_none_iff.2 h
  | some v => simp [withField, get?_cons]

theorem get?_withField_of_ne {key k : String} (value : Option Value) (others : Fields)
    (h : k ≠ key) : (withField key value others).get? k = others.get? k := by
  cases value with
  | none => rfl
  | some v => simp [withField, get?_cons, h]

theorem keys_withField (key : String) (value : Option Value) (others : Fields) :
    (withField key value others).keys =
      if value.isSome then key :: others.keys else others.keys := by
  cases value <;> rfl

end Fields

namespace RuleTree

/-- A tree is empty, or a name with a node before the rest of it. -/
@[elab_as_elim]
theorem consInduction {motive : RuleTree → Prop} (empty : motive .empty)
    (cons : ∀ key node rest, (∀ inner, node = .group inner → motive inner) → motive rest →
      motive (cons key node rest)) (tree : RuleTree) : motive tree := by
  induction tree with
  | empty => exact empty
  | rules key set rest ih => exact cons key (.rules set) rest (by simp) ih
  | group key inner rest hinner ih =>
    refine cons key (.group inner) rest ?_ ih
    intro other he
    cases he
    exact hinner
  | value key v rest ih => exact cons key (.value v) rest (by simp) ih

@[simp] theorem keys_cons (key : String) (node : RuleNode) (rest : RuleTree) :
    (cons key node rest).keys = key :: rest.keys := by
  cases node <;> rfl

@[simp] theorem get?_empty (key : String) : get? key .empty = none := rfl

theorem get?_cons (k : String) (node : RuleNode) (rest : RuleTree) (key : String) :
    (cons k node rest).get? key = if k = key then some node else rest.get? key := by
  cases node <;> rfl

theorem get?_eq_none_iff {tree : RuleTree} {key : String} :
    tree.get? key = none ↔ key ∉ tree.keys := by
  induction tree using consInduction with
  | empty => simp [keys]
  | cons k node rest _ ih =>
    rw [get?_cons, keys_cons, List.mem_cons]
    by_cases h : k = key
    · simp [h]
    · simp [h, ih, Ne.symm h]

/-- Each name stands once in its group, as in any record. -/
def Distinct : RuleTree → Prop
  | .empty => True
  | .rules key _ rest | .value key _ rest => key ∉ rest.keys ∧ rest.Distinct
  | .group key inner rest => key ∉ rest.keys ∧ inner.Distinct ∧ rest.Distinct

theorem distinct_cons {key : String} {node : RuleNode} {rest : RuleTree} :
    (cons key node rest).Distinct ↔ key ∉ rest.keys ∧
      (∀ inner, node = .group inner → inner.Distinct) ∧ rest.Distinct := by
  cases node <;> simp [cons, Distinct]

theorem Distinct.of_get? {tree inner : RuleTree} {key : String} (hd : tree.Distinct)
    (h : tree.get? key = some (.group inner)) : inner.Distinct := by
  induction tree using consInduction with
  | empty => simp at h
  | cons k node rest _ ih =>
    obtain ⟨-, hnode, hrest⟩ := distinct_cons.1 hd
    rw [get?_cons] at h
    by_cases hk : k = key
    · rw [if_pos hk, Option.some.injEq] at h
      exact hnode inner h
    · rw [if_neg hk] at h
      exact ih hrest h

theorem Distinct.nodup_keys {tree : RuleTree} (hd : tree.Distinct) : tree.keys.Nodup := by
  induction tree using consInduction with
  | empty => exact List.nodup_nil
  | cons key node rest _ ih =>
    obtain ⟨hk, -, hrest⟩ := distinct_cons.1 hd
    rw [keys_cons, List.nodup_cons]
    exact ⟨hk, ih hrest⟩

theorem put_cons (k : String) (old : RuleNode) (rest : RuleTree) (key : String)
    (node : RuleNode) :
    (cons k old rest).put key node =
      if k = key then cons key node rest else cons k old (rest.put key node) := by
  cases old <;> rfl

theorem mem_keys_put {tree : RuleTree} {key k : String} {node : RuleNode} :
    k ∈ (tree.put key node).keys ↔ k ∈ tree.keys ∨ k = key := by
  induction tree using consInduction with
  | empty => simp [put, keys]
  | cons j old rest _ ih =>
    rw [put_cons]
    by_cases h : j = key
    · subst h
      simp only [if_true, keys_cons, List.mem_cons]
      grind
    · simp only [if_neg h, keys_cons, List.mem_cons, ih]
      grind

theorem Distinct.put {tree : RuleTree} {key : String} {node : RuleNode} (hd : tree.Distinct)
    (hnode : ∀ inner, node = .group inner → inner.Distinct) : (tree.put key node).Distinct := by
  induction tree using consInduction with
  | empty => exact distinct_cons.2 ⟨by simp [keys], hnode, trivial⟩
  | cons k old rest _ ih =>
    obtain ⟨hk, hold, hrest⟩ := distinct_cons.1 hd
    rw [put_cons]
    by_cases h : k = key
    · subst h
      rw [if_pos rfl]
      exact distinct_cons.2 ⟨hk, hnode, hrest⟩
    · rw [if_neg h]
      refine distinct_cons.2 ⟨?_, hold, ih hrest⟩
      rw [mem_keys_put]
      exact not_or_intro hk h

theorem get?_put {tree : RuleTree} {key k : String} {node : RuleNode} :
    (tree.put key node).get? k = if key = k then some node else tree.get? k := by
  induction tree using consInduction with
  | empty => rw [put, get?_cons]
  | cons j old rest _ ih =>
    rw [put_cons, get?_cons]
    by_cases h : j = key
    · subst h
      rw [if_pos rfl, get?_cons]
      split <;> rfl
    · rw [if_neg h, get?_cons, ih]
      by_cases hk : key = k
      · simp [← hk, h]
      · simp [hk]

section
variable {nodes : List (String × RuleNode)}

def putAll (tree : RuleTree) (nodes : List (String × RuleNode)) : RuleTree :=
  nodes.foldl (fun tree pair => tree.put pair.1 pair.2) tree

theorem ofList_eq_putAll (nodes : List (String × RuleNode)) : ofList nodes = putAll .empty nodes :=
  rfl

theorem putAll_cons (tree : RuleTree) (pair : String × RuleNode)
    (nodes : List (String × RuleNode)) :
    putAll tree (pair :: nodes) = putAll (tree.put pair.1 pair.2) nodes := rfl

theorem Distinct.putAll {tree : RuleTree} (hd : tree.Distinct)
    (h : ∀ pair ∈ nodes, ∀ inner, pair.2 = .group inner → inner.Distinct) :
    (tree.putAll nodes).Distinct := by
  induction nodes generalizing tree with
  | nil => exact hd
  | cons pair nodes ih =>
    rw [List.forall_mem_cons] at h
    exact ih (hd.put h.1) h.2

theorem mem_keys_putAll {tree : RuleTree} {key : String} :
    key ∈ (tree.putAll nodes).keys ↔ key ∈ tree.keys ∨ key ∈ nodes.map (·.1) := by
  induction nodes generalizing tree with
  | nil => simp [putAll]
  | cons pair nodes ih =>
    rw [putAll_cons, ih, mem_keys_put, List.map_cons, List.mem_cons, or_assoc]

theorem get?_putAll_of_not_mem {tree : RuleTree} {key : String} (h : key ∉ nodes.map (·.1)) :
    (tree.putAll nodes).get? key = tree.get? key := by
  induction nodes generalizing tree with
  | nil => rfl
  | cons pair nodes ih =>
    rw [List.map_cons, List.mem_cons, not_or] at h
    rw [putAll_cons, ih h.2, get?_put, if_neg (Ne.symm h.1)]

theorem get?_putAll {tree : RuleTree} {pair : String × RuleNode} (hp : pair ∈ nodes)
    (h : ∀ other ∈ nodes, other.1 = pair.1 → other = pair) :
    (tree.putAll nodes).get? pair.1 = some pair.2 := by
  induction nodes generalizing tree with
  | nil => exact absurd hp List.not_mem_nil
  | cons first nodes ih =>
    rw [List.forall_mem_cons] at h
    by_cases hmem : pair ∈ nodes
    · exact ih hmem h.2
    · have hlast : pair.1 ∉ nodes.map (·.1) := by
        intro hname
        obtain ⟨other, ho, he⟩ := List.mem_map.1 hname
        exact hmem (h.2 other ho he ▸ ho)
      obtain rfl : pair = first := (List.mem_cons.1 hp).resolve_right hmem
      rw [putAll_cons, get?_putAll_of_not_mem hlast, get?_put, if_pos rfl]

end

def ruleSets : RuleTree → List RuleSet
  | .empty => []
  | .rules _ set rest => set :: rest.ruleSets
  | .group _ inner rest => inner.ruleSets ++ rest.ruleSets
  | .value _ _ rest => rest.ruleSets

end RuleTree

namespace RuleNode

def ruleSets : RuleNode → List RuleSet
  | .rules set => [set]
  | .group inner => inner.ruleSets
  | .value _ => []

def resolve (page : Place) (context : Context) : RuleNode → Traced (Option Value)
  | .rules set => RuleTree.runRules page context set
  | .group inner => do return some (.record (← inner.resolve page context))
  | .value v => return some v

theorem resolve_group_eq_ok_iff {page : Place} {context : Context} {inner : RuleTree}
    {value : Option Value} :
    ((group inner).resolve page context).result = .ok value ↔
      ∃ fields, (inner.resolve page context).result = .ok fields ∧
        some (.record fields) = value := by
  simp only [resolve, Traced.result_bind, Traced.pure_result, bind_eq_ok, Except.ok.injEq]

theorem resolve_value_eq_ok_iff {page : Place} {context : Context} {v : Value}
    {value : Option Value} :
    ((RuleNode.value v).resolve page context).result = .ok value ↔ some v = value := by
  simp only [resolve, Traced.pure_result, Except.ok.injEq]

end RuleNode

namespace RuleTree

theorem ruleSets_cons (key : String) (node : RuleNode) (rest : RuleTree) :
    (cons key node rest).ruleSets = node.ruleSets ++ rest.ruleSets := by
  cases node <;> rfl

theorem mem_ruleSets_put {tree : RuleTree} {key : String} {node : RuleNode} {set : RuleSet}
    (h : set ∈ (tree.put key node).ruleSets) : set ∈ tree.ruleSets ∨ set ∈ node.ruleSets := by
  induction tree using consInduction with
  | empty =>
    rw [put, ruleSets_cons, List.mem_append] at h
    exact h.symm
  | cons k old rest _ ih =>
    rw [put_cons] at h
    by_cases hk : k = key
    · rw [if_pos hk, ruleSets_cons, List.mem_append] at h
      rw [ruleSets_cons, List.mem_append]
      exact h.elim .inr fun hrest => .inl (.inr hrest)
    · rw [if_neg hk, ruleSets_cons, List.mem_append] at h
      rw [ruleSets_cons, List.mem_append, or_assoc]
      exact h.elim .inl fun hrest => .inr (ih hrest)

theorem mem_ruleSets_putAll {tree : RuleTree} {nodes : List (String × RuleNode)} {set : RuleSet}
    (h : set ∈ (tree.putAll nodes).ruleSets) :
    set ∈ tree.ruleSets ∨ ∃ pair ∈ nodes, set ∈ pair.2.ruleSets := by
  induction nodes generalizing tree with
  | nil => exact .inl h
  | cons pair nodes ih =>
    rcases ih h with hput | ⟨other, hmem, hset⟩
    · rcases mem_ruleSets_put hput with htree | hnode
      · exact .inl htree
      · exact .inr ⟨pair, List.mem_cons_self, hnode⟩
    · exact .inr ⟨other, List.mem_cons_of_mem pair hmem, hset⟩

theorem resolve_congr {page page' : Place} {context context' : Context} {tree : RuleTree}
    (h : ∀ set ∈ tree.ruleSets, runRules page' context' set = runRules page context set) :
    tree.resolve page' context' = tree.resolve page context := by
  induction tree with
  | empty => rfl
  | rules key set rest ih =>
    rw [resolve, resolve, h set List.mem_cons_self,
      ih fun s hs => h s (List.mem_cons_of_mem set hs)]
  | group key inner rest hinner ih =>
    rw [resolve, resolve, hinner fun s hs => h s (List.mem_append_left _ hs),
      ih fun s hs => h s (List.mem_append_right _ hs)]
  | value key v rest ih => rw [resolve, resolve, ih h]

variable {page : Place} {context : Context}

theorem resolve_cons_result (key : String) (node : RuleNode) (rest : RuleTree) :
    ((cons key node rest).resolve page context).result = do
      let value ← (node.resolve page context).result
      let others ← (rest.resolve page context).result
      return Fields.withField key value others := by
  cases node with
  | rules set =>
    simp only [cons, resolve, RuleNode.resolve, Traced.result_bind, Traced.pure_result]
    refine bind_congr fun value => bind_congr fun others => ?_
    cases value <;> rfl
  | group inner =>
    simp only [cons, resolve, RuleNode.resolve, Traced.result_bind, Traced.pure_result]
    cases (inner.resolve page context).result <;> rfl
  | value v =>
    simp only [cons, resolve, RuleNode.resolve, Traced.result_bind, Traced.pure_result]
    rfl

theorem resolve_cons_eq_ok_iff {key : String} {node : RuleNode} {rest : RuleTree}
    {fields : Fields} :
    ((cons key node rest).resolve page context).result = .ok fields ↔
      ∃ value others, (node.resolve page context).result = .ok value ∧
        (rest.resolve page context).result = .ok others ∧
        Fields.withField key value others = fields := by
  rw [resolve_cons_result]
  simp only [bind_eq_ok, pure_eq_ok, Except.ok.injEq]
  constructor
  · intro hex
    obtain ⟨value, hv, others, ho, hf⟩ := hex
    exact ⟨value, others, hv, ho, hf⟩
  · intro hex
    obtain ⟨value, others, hv, ho, hf⟩ := hex
    exact ⟨value, hv, others, ho, hf⟩

end RuleTree
end LinkPreview
