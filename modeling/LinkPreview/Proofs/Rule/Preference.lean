import LinkPreview.Proofs.Rule.Greatest
import LinkPreview.Proofs.Rule.ShortCircuit
import LinkPreview.Rule.Parts

set_option autoImplicit false

namespace LinkPreview

/-- What the parts of a rule set answer on a page if none of them fails, and the amounts that
scores stand for. -/
structure Answers where
  picked : Rule → List Place
  raw : Rule → Place → Value
  processed : Value → Value
  score : Candidate → Number
  amount : Candidate → Amount

namespace Answers
variable (a : Answers)

def keeps (rule : Rule) (element : Place) : Bool :=
  !(a.raw rule element).isEmpty && !(a.processed (a.raw rule element)).isEmpty

def candidates (rule : Rule) : List Candidate :=
  ((a.picked rule).filter (a.keeps rule)).map fun element =>
    ⟨a.processed (a.raw rule element), element⟩

structure Hold (set : RuleSet) (rules : List Rule) (page : Place) (context : Context) : Prop where
  picks : ∀ rule ∈ rules, rule.target.pick page = .ok (a.picked rule)
  extracts : ∀ rule ∈ rules, ∀ element ∈ a.picked rule,
    rule.extract element = .ok (a.raw rule element)
  processes : ∀ rule ∈ rules, ∀ element ∈ a.picked rule, (a.raw rule element).isEmpty = false →
    Matcher.processAll context set.processors (a.raw rule element) =
      .ok (a.processed (a.raw rule element))
  scores : ∀ score ∈ set.scorer, ∀ rule ∈ rules, ∀ c ∈ a.candidates rule,
    score c.value c.element = .ok (some (a.score c)) ∧ (a.score c).amount? = some (a.amount c)

end Answers

namespace Matcher
variable {m : Matcher} {context : Context} {rule : Rule}

theorem candidates_eq_map {elements : List Place} (keep : Place → Bool) (value : Place → Value)
    (h : ∀ element ∈ elements, m.valueAt context rule element =
      .ok (if keep element then some (value element) else none)) :
    m.candidates context rule elements =
      .ok ((elements.filter keep).map fun element => ⟨value element, element⟩) := by
  induction elements with
  | nil => rfl
  | cons element more ih =>
    rw [List.forall_mem_cons] at h
    rw [candidates, h.1, ok_bind, ih h.2]
    by_cases hk : keep element = true <;> simp [hk]

theorem firstValue_eq_head? {elements : List Place} {cs : List Candidate}
    (h : m.candidates context rule elements = .ok cs) :
    m.firstValue context rule elements = .ok (cs.head?.map (·.value)) := by
  induction elements generalizing cs with
  | nil =>
    simp only [candidates, Except.ok.injEq] at h
    simp [firstValue, ← h]
  | cons element more ih =>
    obtain ⟨found, hf, h⟩ := bind_eq_ok.1 h
    rw [firstValue, hf, ok_bind]
    cases found with
    | none => exact ih h
    | some v =>
      obtain ⟨others, -, h⟩ := bind_eq_ok.1 h
      simp only [pure_eq_ok, Except.ok.injEq] at h
      simp [← h]

end Matcher

namespace Answers.Hold
variable {a : Answers} {set : RuleSet} {rules : List Rule} {page : Place} {context : Context}
  {rule : Rule} (h : a.Hold set rules page context)
include h

theorem valueAt_eq (hr : rule ∈ rules) : ∀ element ∈ a.picked rule,
    (set.matcher rules).valueAt context rule element =
      .ok (if a.keeps rule element then some (a.processed (a.raw rule element)) else none) := by
  intro element he
  have hraw := h.extracts rule hr element he
  by_cases hempty : (a.raw rule element).isEmpty = true
  · have hskip : rule.Skips (set.matcher rules).processors context element :=
      ⟨_, hraw, .inl hempty⟩
    simp [Matcher.valueAt_eq_none_iff.2 hskip, keeps, hempty]
  · have hraw' : (a.raw rule element).isEmpty = false := by simpa using hempty
    have hprocessed := h.processes rule hr element he hraw'
    by_cases hblank : (a.processed (a.raw rule element)).isEmpty = true
    · have hskip : rule.Skips (set.matcher rules).processors context element :=
        ⟨_, hraw, .inr ⟨_, hprocessed, hblank⟩⟩
      simp [Matcher.valueAt_eq_none_iff.2 hskip, keeps, hblank]
    · have hyield : rule.Yields (set.matcher rules).processors context element
          (a.processed (a.raw rule element)) :=
        ⟨_, hraw, hraw', hprocessed, by simpa using hblank⟩
      simp [Matcher.valueAt_eq_some_iff.2 hyield, keeps, hraw', hblank]

theorem candidates_eq (hr : rule ∈ rules) :
    (set.matcher rules).candidates context rule (a.picked rule) = .ok (a.candidates rule) :=
  Matcher.candidates_eq_map _ _ (h.valueAt_eq hr)

theorem barren_of_nil (hr : rule ∈ rules) (hn : a.candidates rule = []) :
    rule.Barren set.processors page context := by
  have hcs := h.candidates_eq hr
  rw [hn] at hcs
  have hb : rule.Barren (set.matcher rules).processors page context :=
    Matcher.barren_iff.2 ⟨_, h.picks rule hr, Matcher.candidates_eq_nil_iff.1 hcs⟩
  exact hb

theorem tryRule_of_first (hr : rule ∈ rules) (hs : set.scorer = none) {first : Candidate}
    {more : List Candidate} (hcs : a.candidates rule = first :: more) (position : Nat) :
    (set.matcher rules).tryRule context page position rule =
      .ok (some ⟨first.value, position, none⟩) := by
  have hfirst := Matcher.firstValue_eq_head? (h.candidates_eq hr)
  have hms : (set.matcher rules).scorer = none := hs
  simp [Matcher.tryRule, h.picks rule hr, hms, hfirst, hcs]

theorem tryRule_of_best (hr : rule ∈ rules) {score : Scorer} (hs : set.scorer = some score)
    {first : Candidate} {more : List Candidate} (hcs : a.candidates rule = first :: more)
    (position : Nat) :
    ∃ best, Candidate.Greatest a.amount (a.candidates rule) best ∧
      (set.matcher rules).tryRule context page position rule =
        .ok (some ⟨best.value, position,
          some ⟨(a.candidates rule).length, some (a.score best)⟩⟩) := by
  have hscores := h.scores score (by simp [hs]) rule hr
  rw [hcs] at hscores
  obtain ⟨best, hb, hbest⟩ := Candidate.best_greatest hscores
  have hms : (set.matcher rules).scorer = some score := hs
  refine ⟨best, by rwa [hcs], ?_⟩
  simp [Matcher.tryRule, h.picks rule hr, hms, h.candidates_eq hr, hcs, hbest]

theorem decision {before after : List Rule} {found : Match}
    (hc : set.forms.map RuleForm.check = rules.map .ok) (hr : rules = before ++ rule :: after)
    (hb : ∀ r ∈ before, a.candidates r = [])
    (ht : (set.matcher rules).tryRule context page before.length rule = .ok (some found)) :
    set.Decision page context before rule after found := by
  subst hr
  refine ⟨hc, ?_, ht⟩
  intro r hmem
  exact h.barren_of_nil (List.mem_append_left _ hmem) (hb r hmem)

theorem exists_decision {before after : List Rule}
    (hc : set.forms.map RuleForm.check = rules.map .ok) (hr : rules = before ++ rule :: after)
    (hb : ∀ r ∈ before, a.candidates r = []) (hcs : a.candidates rule ≠ []) :
    ∃ found, set.Decision page context before rule after found ∧
      (set.scorer = none → ∃ first more, a.candidates rule = first :: more ∧
        found = ⟨first.value, before.length, none⟩) ∧
      (set.scorer ≠ none → ∃ best, Candidate.Greatest a.amount (a.candidates rule) best ∧
        found = ⟨best.value, before.length,
          some ⟨(a.candidates rule).length, some (a.score best)⟩⟩) := by
  have hmem : rule ∈ rules := by simp [hr]
  obtain ⟨first, more, hfm⟩ := List.exists_cons_of_ne_nil hcs
  cases hs : set.scorer with
  | none =>
    have ht := h.tryRule_of_first hmem hs hfm before.length
    exact ⟨_, h.decision hc hr hb ht, fun _ => ⟨first, more, hfm, rfl⟩, by simp⟩
  | some score =>
    obtain ⟨best, hbest, ht⟩ := h.tryRule_of_best hmem hs hfm before.length
    exact ⟨_, h.decision hc hr hb ht, by simp, fun _ => ⟨best, hbest, rfl⟩⟩

theorem runRules_of_nil (hne : rules ≠ []) (hc : set.forms.map RuleForm.check = rules.map .ok)
    (hn : ∀ rule ∈ rules, a.candidates rule = []) :
    RuleTree.runRules page context set = ⟨[], .ok none⟩ := by
  have hrun : (set.matcher rules).run page context = .ok none :=
    Matcher.tryFrom_eq_none_iff.2 fun rule hr => h.barren_of_nil hr (hn rule hr)
  have hbuild : set.build = .ok (set.matcher rules) :=
    RuleSet.build_eq_ok_iff.2 ⟨rules, hne, hc, rfl⟩
  rw [RuleTree.runRules_of_build hbuild, hrun]
  rfl

end Answers.Hold

namespace Answers

theorem exists_first (a : Answers) {rules : List Rule}
    (h : ∃ rule ∈ rules, a.candidates rule ≠ []) :
    ∃ before rule after, rules = before ++ rule :: after ∧
      (∀ r ∈ before, a.candidates r = []) ∧ a.candidates rule ≠ [] := by
  cases hf : rules.find? fun r => !(a.candidates r).isEmpty with
  | none =>
    obtain ⟨rule, hr, hne⟩ := h
    have hempty := List.find?_eq_none.1 hf rule hr
    simp [hne] at hempty
  | some rule =>
    obtain ⟨hp, before, after, hs, hb⟩ := List.find?_eq_some_iff_append.1 hf
    exact ⟨before, rule, after, hs, by simpa using hb, by simpa using hp⟩

end Answers

namespace RuleTree

/-- A rule set without a candidate gives no value and reports nothing. Otherwise the first rule
that has one decides, one match is reported, and the rules after it might as well be missing. -/
theorem runRules_by_preference (set : RuleSet) (rules : List Rule) (page : Place)
    (context : Context) (a : Answers) (hne : rules ≠ [])
    (hc : set.forms.map RuleForm.check = rules.map .ok) (h : a.Hold set rules page context) :
    ((runRules page context set).result = .ok none ↔ ∀ rule ∈ rules, a.candidates rule = []) ∧
      ((runRules page context set).events = [] ↔ ∀ rule ∈ rules, a.candidates rule = []) ∧
      ((∃ rule ∈ rules, a.candidates rule ≠ []) →
        ∃ before rule after, rules = before ++ rule :: after ∧
          (∀ r ∈ before, a.candidates r = []) ∧ a.candidates rule ≠ [] ∧
          (set.scorer = none → ∃ first more, a.candidates rule = first :: more ∧
            runRules page context set =
              ⟨[.matched set.name ⟨first.value, before.length, none⟩ context.url],
                .ok (some first.value)⟩) ∧
          (set.scorer ≠ none → ∃ best, Candidate.Greatest a.amount (a.candidates rule) best ∧
            runRules page context set =
              ⟨[.matched set.name ⟨best.value, before.length,
                some ⟨(a.candidates rule).length, some (a.score best)⟩⟩ context.url],
                .ok (some best.value)⟩) ∧
          runRules page context { set with forms := set.forms.take (before.length + 1) } =
            runRules page context set) := by
  have hdecided : (∃ rule ∈ rules, a.candidates rule ≠ []) →
      ∃ event value, runRules page context set = ⟨[event], .ok (some value)⟩ := by
    intro hex
    obtain ⟨before, rule, after, hs, hb, hcs⟩ := a.exists_first hex
    obtain ⟨found, d, -⟩ := h.exists_decision hc hs hb hcs
    exact ⟨_, _, d.runRules_eq⟩
  have hnothing := h.runRules_of_nil hne hc
  refine ⟨⟨?_, ?_⟩, ⟨?_, ?_⟩, ?_⟩
  · intro hr
    by_contra hex
    push Not at hex
    obtain ⟨event, value, hrun⟩ := hdecided hex
    simp [hrun] at hr
  · intro hn
    rw [hnothing hn]
  · intro he
    by_contra hex
    push Not at hex
    obtain ⟨event, value, hrun⟩ := hdecided hex
    simp [hrun] at he
  · intro hn
    rw [hnothing hn]
  · intro hex
    obtain ⟨before, rule, after, hs, hb, hcs⟩ := a.exists_first hex
    obtain ⟨found, d, hfirst, hbest⟩ := h.exists_decision hc hs hb hcs
    have hnone : ∀ form ∈ ([] : List RuleForm), form.WellFormed := by simp
    have htake := d.runRules_take hnone
    rw [List.append_nil, d.position] at htake
    refine ⟨before, rule, after, hs, hb, hcs, ?_, ?_, htake.trans d.runRules_eq.symm⟩
    · intro hsc
      obtain ⟨first, more, hm, rfl⟩ := hfirst hsc
      exact ⟨first, more, hm, d.runRules_eq⟩
    · intro hsc
      obtain ⟨best, hm, rfl⟩ := hbest hsc
      exact ⟨best, hm, d.runRules_eq⟩

def longestRules : List Rule :=
  [⟨.function fun _ => .ok [], .text⟩,
    ⟨.function fun page => .ok [page, plainPage "B", plainPage " CC ", plainPage "DD"], .text⟩]

def longestTitle : RuleSet where
  name := "title"
  forms := longestRules.map fun rule => .rule (some rule.target) (some rule.extract)
  processors := [.strip]
  scorer := some .length

def longestAnswers : Answers where
  picked rule := (rule.target.pick (plainPage " ")).toOption.getD []
  raw _ element := .text element.text
  processed
    | .text s => .text (Text.strip s)
    | v => v
  score c := .whole ((c.value.length?.getD 0 : Nat) : Int)
  amount c := Number.finite ((c.value.length?.getD 0 : Nat) : Int)

theorem longestAnswers_hold :
    longestAnswers.Hold longestTitle longestRules (plainPage " ") (.ofUrl none) := by
  refine ⟨?_, ?_, ?_, ?_⟩
  · intro rule hr
    rcases List.mem_cons.1 hr with rfl | hr
    · rfl
    · obtain rfl := List.mem_singleton.1 hr
      rfl
  · intro rule hr element he
    rcases List.mem_cons.1 hr with rfl | hr
    · rfl
    · obtain rfl := List.mem_singleton.1 hr
      rfl
  · intro rule hr element he hraw
    rfl
  · intro score hs rule hr c hc
    obtain rfl : Scorer.length = score := by simpa [longestTitle] using hs
    obtain ⟨element, -, rfl⟩ := List.mem_map.1 hc
    have htext : longestAnswers.processed (longestAnswers.raw rule element) =
      .text (Text.strip element.text) := rfl
    rw [htext]
    generalize Text.strip element.text = t
    exact ⟨rfl, rfl⟩

theorem runRules_longestTitle_by_preference :
    longestAnswers.Hold longestTitle longestRules (plainPage " ") (.ofUrl none) ∧
      (∃ rule ∈ longestRules, longestAnswers.candidates rule ≠ []) ∧
      ∃ before rule after best, longestRules = before ++ rule :: after ∧
        Candidate.Greatest longestAnswers.amount (longestAnswers.candidates rule) best ∧
        runRules (plainPage " ") (.ofUrl none) longestTitle =
          ⟨[.matched "title" ⟨best.value, before.length,
            some ⟨(longestAnswers.candidates rule).length, some (longestAnswers.score best)⟩⟩
            none], .ok (some best.value)⟩ := by
  have hex : ∃ rule ∈ longestRules, longestAnswers.candidates rule ≠ [] :=
    ⟨_, List.mem_cons_of_mem _ List.mem_cons_self, List.cons_ne_nil _ _⟩
  obtain ⟨-, -, hdecides⟩ := runRules_by_preference longestTitle longestRules (plainPage " ")
    (.ofUrl none) longestAnswers (List.cons_ne_nil _ _) rfl longestAnswers_hold
  obtain ⟨before, rule, after, hs, -, -, -, hbest, -⟩ := hdecides hex
  obtain ⟨best, hb, hrun⟩ := hbest (Option.some_ne_none _)
  exact ⟨longestAnswers_hold, hex, before, rule, after, best, hs, hb, hrun⟩

end RuleTree
end LinkPreview
