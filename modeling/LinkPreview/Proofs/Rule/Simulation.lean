import LinkPreview.Proofs.Rule.Calls
import Mathlib.Data.List.Forall2

/-! A matcher on one page in two contexts, where its processors turn the same value into related
ones. It decides by the same rule in both, and takes its value from the same element. -/
set_option autoImplicit false

namespace LinkPreview

def Scorer.ByElement (score : Scorer) : Prop := ∀ v w element, score v element = score w element

section
variable {R : Value → Value → Prop} {base context : Context} {page : Place}

def Candidate.Paired (R : Value → Value → Prop) (c d : Candidate) : Prop :=
  R c.value d.value ∧ c.element = d.element

structure Match.Paired (R : Value → Value → Prop) (x y : Match) : Prop where
  value : R x.value y.value
  position : x.position = y.position
  ranking : x.ranking = y.ranking

namespace Candidate

theorem challenge_follows {score : Scorer} (hs : score.ByElement) {cs ds : List Candidate}
    (h : List.Forall₂ (Paired R) cs ds) {v w : Value} (s : Option Number) (hv : R v w) :
    Follows (fun x y => R x.1 y.1 ∧ x.2 = y.2) (challenge score v s cs)
      (challenge score w s ds) := by
  induction h generalizing v w s with
  | nil => exact follows_ok ⟨hv, rfl⟩
  | @cons c d cs ds hpair _ ih =>
    rw [challenge, challenge, hs c.value d.value, hpair.2]
    refine (follows_self _).bind ?_
    intro t t' ht
    subst ht
    refine (follows_self _).bind ?_
    intro better better' hb
    subst hb
    cases better with
    | true => exact ih t hpair.1
    | false => exact ih s hv

theorem best_follows {score : Scorer} (hs : score.ByElement) {c d : Candidate}
    {cs ds : List Candidate} (hpair : Paired R c d) (h : List.Forall₂ (Paired R) cs ds) :
    Follows (fun x y => R x.1 y.1 ∧ x.2 = y.2) (best score c cs) (best score d ds) := by
  rw [best, best, hs c.value d.value, hpair.2]
  refine (follows_self _).bind ?_
  intro s s' hs'
  subst hs'
  exact challenge_follows hs h s hpair.1

end Candidate

namespace Matcher
variable {m : Matcher}

/-- What gets through the processors in the context gets through them in the base, to a related
value. One of the two values is empty only if both are. -/
def Carries (m : Matcher) (R : Value → Value → Prop) (base context : Context) : Prop :=
  ∀ raw : Value, raw.isEmpty = false →
    Follows (fun v w => R v w ∧ v.isEmpty = w.isEmpty) (processAll base m.processors raw)
      (processAll context m.processors raw)

theorem carries_eq (h : ∀ process ∈ m.processors, ∀ v, process v base = process v context) :
    m.Carries Eq base context := by
  intro raw _ w hw
  have hsame : processAll base m.processors raw = processAll context m.processors raw := by
    refine processAll_congr ?_
    intro first process last v he _
    exact h process (he ▸ List.mem_append_right first List.mem_cons_self) v
  exact ⟨w, hsame.trans hw, rfl, rfl⟩

theorem valueAt_follows (hc : m.Carries R base context) (rule : Rule) (element : Place) :
    Follows (Option.Rel R) (m.valueAt base rule element) (m.valueAt context rule element) := by
  refine (follows_self (rule.extract element)).bind ?_
  intro raw raw' he
  subst he
  cases hraw : raw.isEmpty with
  | true => exact follows_ok .none
  | false =>
    refine (hc raw hraw).bind ?_
    intro v w hvw
    obtain ⟨hr, he⟩ := hvw
    rw [he]
    cases w.isEmpty with
    | true => exact follows_ok .none
    | false => exact follows_ok (.some hr)

theorem firstValue_follows (hc : m.Carries R base context) (rule : Rule)
    (elements : List Place) :
    Follows (Option.Rel R) (m.firstValue base rule elements)
      (m.firstValue context rule elements) := by
  induction elements with
  | nil => exact follows_ok .none
  | cons element more ih =>
    refine (valueAt_follows hc rule element).bind ?_
    intro x y hxy
    cases hxy with
    | some hr => exact follows_ok (.some hr)
    | none => exact ih

theorem candidates_follows (hc : m.Carries R base context) (rule : Rule)
    (elements : List Place) :
    Follows (List.Forall₂ (Candidate.Paired R)) (m.candidates base rule elements)
      (m.candidates context rule elements) := by
  induction elements with
  | nil => exact follows_ok .nil
  | cons element more ih =>
    refine (valueAt_follows hc rule element).bind ?_
    intro x y hxy
    cases hxy with
    | some hr =>
      refine ih.bind ?_
      intro cs ds hcs
      exact follows_ok (.cons ⟨hr, rfl⟩ hcs)
    | none => exact ih

theorem tryRule_follows (hc : m.Carries R base context)
    (hs : ∀ score, m.scorer = some score → score.ByElement) (position : Nat) (rule : Rule) :
    Follows (Option.Rel (Match.Paired R)) (m.tryRule base page position rule)
      (m.tryRule context page position rule) := by
  refine (follows_self (rule.target.pick page)).bind ?_
  intro elements elements' he
  subst he
  cases hscorer : m.scorer with
  | none =>
    refine (firstValue_follows hc rule elements).bind ?_
    intro x y hxy
    cases hxy with
    | some hr => exact follows_ok (.some ⟨hr, rfl, rfl⟩)
    | none => exact follows_ok .none
  | some score =>
    refine (candidates_follows hc rule elements).bind ?_
    intro cs ds hcs
    cases hcs with
    | nil => exact follows_ok .none
    | @cons c d cs ds hpair hmore =>
      refine (Candidate.best_follows (hs score hscorer) hpair hmore).bind ?_
      intro x y hxy
      obtain ⟨v, s⟩ := x
      obtain ⟨w, t⟩ := y
      obtain ⟨hr, hst⟩ := hxy
      obtain rfl : s = t := hst
      exact follows_ok (.some ⟨hr, rfl, by simp [hmore.length_eq]⟩)

theorem tryFrom_follows (hc : m.Carries R base context)
    (hs : ∀ score, m.scorer = some score → score.ByElement) (position : Nat)
    (rules : List Rule) :
    Follows (Option.Rel (Match.Paired R)) (m.tryFrom base page position rules)
      (m.tryFrom context page position rules) := by
  induction rules generalizing position with
  | nil => exact follows_ok .none
  | cons rule more ih =>
    refine (tryRule_follows hc hs position rule).bind ?_
    intro x y hxy
    cases hxy with
    | some hr => exact follows_ok (.some hr)
    | none => exact ih (position + 1)

end Matcher

/-- The value that a rule set has in a context is related to one that it has in the base. -/
theorem RuleTree.runRules_follows {set : RuleSet} {m : Matcher} (hm : set.build = .ok m)
    (hc : m.Carries R base context) (hs : ∀ score, m.scorer = some score → score.ByElement) :
    Follows (Option.Rel R) (runRules page base set).result
      (runRules page context set).result := by
  intro value h
  obtain ⟨m', found, hm', hf, rfl⟩ := runRules_result_eq_ok_iff.1 h
  obtain rfl : m = m' := by simpa [hm] using hm'
  obtain ⟨other, ho, hr⟩ := Matcher.tryFrom_follows hc hs 0 m.rules found hf
  refine ⟨other.map (·.value), runRules_result_eq_ok_iff.2 ⟨m, other, hm, ho, rfl⟩, ?_⟩
  cases hr with
  | some hpair => exact .some hpair.value
  | none => exact .none

end
end LinkPreview
