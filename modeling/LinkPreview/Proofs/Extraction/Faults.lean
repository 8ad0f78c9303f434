import LinkPreview.Proofs.Extraction.Fallback
import LinkPreview.Proofs.Rule.Report

set_option autoImplicit false

namespace LinkPreview
variable {P : Fault → Prop}

def Scorer.Confined (P : Fault → Prop) (score : Scorer) : Prop :=
  ∀ v element, FaultsIn P (score v element) ∧ ∀ s, score v element = .ok s → s.isSome = true

theorem beats_of_isSome {s t : Option Number} (hs : s.isSome = true) (ht : t.isSome = true) :
    ∃ better, beats s t = .ok better := by
  obtain ⟨x, rfl⟩ := Option.isSome_iff_exists.1 hs
  obtain ⟨y, rfl⟩ := Option.isSome_iff_exists.1 ht
  exact ⟨_, rfl⟩

namespace Candidate
variable {score : Scorer}

theorem challenge_faultsIn (h : score.Confined P) {s : Option Number} (hs : s.isSome = true)
    (v : Value) (more : List Candidate) : FaultsIn P (challenge score v s more) := by
  induction more generalizing v s with
  | nil => exact faultsIn_ok P _
  | cons c more ih =>
    obtain ⟨hfaults, hscored⟩ := h c.value c.element
    refine hfaults.bind ?_
    intro t ht
    obtain ⟨better, hb⟩ := beats_of_isSome (hscored t ht) hs
    rw [hb, ok_bind]
    cases better with
    | true => exact ih (hscored t ht) c.value
    | false => exact ih hs v

theorem best_faultsIn (h : score.Confined P) (first : Candidate) (more : List Candidate) :
    FaultsIn P (best score first more) := by
  obtain ⟨hfaults, hscored⟩ := h first.value first.element
  refine hfaults.bind ?_
  intro s hs
  exact challenge_faultsIn h (hscored s hs) first.value more

end Candidate

namespace Matcher
variable {m : Matcher} {page : Place} {context : Context} {rule : Rule}

/-- The values that a rule reads fail in the processors with such faults only. -/
structure ConfinedAt (m : Matcher) (P : Fault → Prop) (page : Place) (context : Context)
    (rule : Rule) : Prop where
  pick : FaultsIn P (rule.target.pick page)
  extract : ∀ element, FaultsIn P (rule.extract element)
  process : ∀ element raw, rule.extract element = .ok raw → raw.isEmpty = false →
    FaultsIn P (processAll context m.processors raw)

theorem valueAt_faultsIn (h : m.ConfinedAt P page context rule) (element : Place) :
    FaultsIn P (m.valueAt context rule element) := by
  refine (h.extract element).bind ?_
  intro raw hraw
  cases hempty : raw.isEmpty with
  | true => exact faultsIn_ok P _
  | false =>
    refine (h.process element raw hraw hempty).bind ?_
    intro v _
    exact faultsIn_ok P _

theorem firstValue_faultsIn (h : m.ConfinedAt P page context rule) (elements : List Place) :
    FaultsIn P (m.firstValue context rule elements) := by
  induction elements with
  | nil => exact faultsIn_ok P _
  | cons element more ih =>
    refine (valueAt_faultsIn h element).bind ?_
    intro found _
    cases found with
    | some v => exact faultsIn_ok P _
    | none => exact ih

theorem candidates_faultsIn (h : m.ConfinedAt P page context rule) (elements : List Place) :
    FaultsIn P (m.candidates context rule elements) := by
  induction elements with
  | nil => exact faultsIn_ok P _
  | cons element more ih =>
    refine (valueAt_faultsIn h element).bind ?_
    intro found _
    cases found with
    | some v => exact ih.bind fun _ _ => faultsIn_ok P _
    | none => exact ih

theorem tryRule_faultsIn (h : m.ConfinedAt P page context rule)
    (hs : ∀ score, m.scorer = some score → score.Confined P) (position : Nat) :
    FaultsIn P (m.tryRule context page position rule) := by
  refine h.pick.bind ?_
  intro elements _
  cases hscorer : m.scorer with
  | none => exact (firstValue_faultsIn h elements).bind fun _ _ => faultsIn_ok P _
  | some score =>
    refine (candidates_faultsIn h elements).bind ?_
    intro cs _
    cases cs with
    | nil => exact faultsIn_ok P _
    | cons first more =>
      exact (Candidate.best_faultsIn (hs score hscorer) first more).bind fun _ _ =>
        faultsIn_ok P _

theorem tryFrom_faultsIn {rules : List Rule}
    (h : ∀ rule ∈ rules, m.ConfinedAt P page context rule)
    (hs : ∀ score, m.scorer = some score → score.Confined P) (position : Nat) :
    FaultsIn P (m.tryFrom context page position rules) := by
  induction rules generalizing position with
  | nil => exact faultsIn_ok P _
  | cons rule more ih =>
    rw [List.forall_mem_cons] at h
    refine (tryRule_faultsIn h.1 hs position).bind ?_
    intro found _
    cases found with
    | some v => exact faultsIn_ok P _
    | none => exact ih h.2 (position + 1)

end Matcher

namespace RuleTree
variable {page : Place} {context : Context}

theorem runRules_faultsIn {set : RuleSet} {m : Matcher} (hm : set.build = .ok m)
    (h : ∀ rule ∈ m.rules, m.ConfinedAt P page context rule)
    (hs : ∀ score, m.scorer = some score → score.Confined P) :
    FaultsIn P (runRules page context set).result := by
  have hrun := Matcher.tryFrom_faultsIn h hs 0
  intro fault hf
  rw [runRules_of_build hm] at hf
  cases hr : m.run page context with
  | error other =>
    rw [hr] at hf
    obtain rfl : other = fault := Except.error.inj hf
    exact hrun other hr
  | ok found =>
    rw [hr] at hf
    cases found <;> contradiction

theorem resolve_faultsIn {tree : RuleTree}
    (h : ∀ set ∈ tree.ruleSets, FaultsIn P (runRules page context set).result) :
    FaultsIn P (tree.resolve page context).result := by
  induction tree using consInduction with
  | empty => exact faultsIn_ok P _
  | cons key node rest hinner ih =>
    rw [ruleSets_cons] at h
    have hrest := ih fun set hs => h set (List.mem_append_right _ hs)
    have hnode : FaultsIn P (node.resolve page context).result := by
      cases node with
      | rules set => exact h set (by simp [RuleNode.ruleSets])
      | group inner =>
        rw [RuleNode.resolve, Traced.result_bind]
        have hbelow := hinner inner rfl fun set hs => h set (List.mem_append_left _ hs)
        exact hbelow.bind fun _ _ => faultsIn_ok P _
      | value v => exact faultsIn_ok P _
    rw [resolve_cons_result]
    exact hnode.bind fun _ _ => hrest.bind fun _ _ => faultsIn_ok P _

end RuleTree

theorem extract_faultsIn {page : Place} {context : Context} {tree : RuleTree}
    (h : ∀ set ∈ tree.ruleSets, FaultsIn P (RuleTree.runRules page context set).result)
    (hhost : ∀ url, FaultsIn P (context.host (.text url) >>= Provider.ofValue)) :
    FaultsIn P (extract page context tree).result := by
  intro fault hf
  cases hr : (tree.resolve page context).result with
  | error other =>
    rw [extract_of_fault hr] at hf
    obtain rfl : other = fault := Except.error.inj hf
    exact RuleTree.resolve_faultsIn h other hr
  | ok base =>
    rw [extract_of_resolve hr] at hf
    obtain ⟨url, -, hfault⟩ :=
      Extraction.derive_eq_error_iff.1 (Extraction.finish_result_eq_error_iff.1 hf)
    exact hhost url fault (bind_eq_error.2 hfault)

end LinkPreview
