import LinkPreview.Proofs.Rule.Report
import Mathlib.Data.List.Forall2

set_option autoImplicit false

namespace LinkPreview

def Scorer.Same (scorer : Option Scorer) (p q : Place) : Prop :=
  ∀ score, scorer = some score → ∀ v, score v p = score v q

/-- A rule reads the same from two elements, and the same score goes to both. -/
structure Rule.Same (rule : Rule) (scorer : Option Scorer) (p q : Place) : Prop where
  extract : rule.extract p = rule.extract q
  score : Scorer.Same scorer p q

structure Candidate.Same (scorer : Option Scorer) (c d : Candidate) : Prop where
  value : c.value = d.value
  score : Scorer.Same scorer c.element d.element

namespace Candidate
variable {score : Scorer}

theorem Same.score_eq {c d : Candidate} (h : Same (some score) c d) :
    score c.value c.element = score d.value d.element := by
  rw [h.value, h.score score rfl]

theorem challenge_same {cs ds : List Candidate} (h : List.Forall₂ (Same (some score)) cs ds)
    (v : Value) (s : Option Number) : challenge score v s cs = challenge score v s ds := by
  induction h generalizing v s with
  | nil => rfl
  | @cons c d cs ds hcd _ ih =>
    rw [challenge, challenge, hcd.score_eq, hcd.value]
    refine bind_congr fun t => bind_congr fun better => ?_
    rw [ih, ih]

theorem best_same {c d : Candidate} {cs ds : List Candidate} (hcd : Same (some score) c d)
    (h : List.Forall₂ (Same (some score)) cs ds) : best score c cs = best score d ds := by
  rw [best, best, hcd.score_eq, hcd.value]
  exact bind_congr fun s => challenge_same h d.value s

end Candidate

namespace Matcher
variable {m : Matcher} {context : Context} {rule : Rule} {ps qs : List Place}

theorem valueAt_same {p q : Place} (h : rule.extract p = rule.extract q) :
    m.valueAt context rule p = m.valueAt context rule q := by
  rw [valueAt, valueAt, h]

theorem firstValue_same {scorer : Option Scorer} (h : List.Forall₂ (rule.Same scorer) ps qs) :
    m.firstValue context rule ps = m.firstValue context rule qs := by
  induction h with
  | nil => rfl
  | cons hpq _ ih => rw [firstValue, firstValue, valueAt_same hpq.extract, ih]

theorem candidates_same {scorer : Option Scorer} (h : List.Forall₂ (rule.Same scorer) ps qs) :
    Agree (List.Forall₂ (Candidate.Same scorer)) (m.candidates context rule ps)
      (m.candidates context rule qs) := by
  induction h with
  | nil => exact .ok .nil
  | @cons p q ps qs hpq _ ih =>
    rw [candidates, candidates, valueAt_same hpq.extract]
    refine (agree_self _).bind ?_
    intro found found' he
    subst he
    cases found with
    | none => exact ih
    | some v =>
      refine ih.bind ?_
      intro cs ds hcs
      exact .ok (.cons ⟨rfl, hpq.score⟩ hcs)

theorem tryRule_same {page other : Place} (position : Nat)
    (h : Agree (List.Forall₂ (rule.Same m.scorer)) (rule.target.pick page)
      (rule.target.pick other)) :
    m.tryRule context page position rule = m.tryRule context other position rule := by
  refine Agree.eq (h.bind ?_)
  intro ps qs hpq
  cases hs : m.scorer with
  | none =>
    dsimp only
    rw [firstValue_same hpq]
    exact agree_self _
  | some score =>
    rw [hs] at hpq
    refine (candidates_same hpq).bind ?_
    intro cs ds hcs
    cases hcs with
    | nil => exact agree_self _
    | cons hcd hmore =>
      dsimp only
      rw [Candidate.best_same hcd hmore, hmore.length_eq]
      exact agree_self _

theorem tryFrom_same {page other : Place} {rules : List Rule} (position : Nat)
    (h : ∀ rule ∈ rules, Agree (List.Forall₂ (rule.Same m.scorer)) (rule.target.pick page)
      (rule.target.pick other)) :
    m.tryFrom context page position rules = m.tryFrom context other position rules := by
  induction rules generalizing position with
  | nil => rfl
  | cons rule more ih =>
    rw [List.forall_mem_cons] at h
    rw [tryFrom, tryFrom, tryRule_same position h.1, ih (position + 1) h.2]

end Matcher

/-- The rules of a rule set pick elements on two pages that make no difference to it. -/
theorem RuleTree.runRules_same {page other : Place} {context : Context} {set : RuleSet}
    {m : Matcher} (hm : set.build = .ok m)
    (h : ∀ rule ∈ m.rules, Agree (List.Forall₂ (rule.Same m.scorer)) (rule.target.pick page)
      (rule.target.pick other)) :
    runRules page context set = runRules other context set := by
  rw [runRules_of_build hm, runRules_of_build hm, Matcher.run, Matcher.run,
    Matcher.tryFrom_same 0 h]

end LinkPreview
