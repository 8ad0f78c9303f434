import LinkPreview.Extraction
import LinkPreview.Proofs.Rule.Selection

set_option autoImplicit false

namespace LinkPreview

namespace RuleSet

def matcher (set : RuleSet) (rules : List Rule) : Matcher :=
  ⟨set.name, rules, set.processors, set.scorer⟩

theorem checkFrom_eq_ok_iff {name : String} {position : Nat} {forms : List RuleForm}
    {rules : List Rule} :
    checkFrom name position forms = .ok rules ↔ forms.map RuleForm.check = rules.map .ok := by
  induction forms generalizing position rules with
  | nil => cases rules <;> simp [checkFrom]
  | cons form forms ih =>
    cases hf : form.check with
    | error flaw => cases rules <;> simp [checkFrom, hf]
    | ok rule =>
      cases rules with
      | nil => simp [checkFrom, hf, bind_eq_ok]
      | cons r rules =>
        simp only [checkFrom, hf, bind_eq_ok, ih, pure_eq_ok, Except.ok.injEq, List.cons.injEq,
          List.map_cons]
        constructor
        · intro hex
          obtain ⟨others, ho, rfl, rfl⟩ := hex
          exact ⟨rfl, ho⟩
        · intro hboth
          obtain ⟨rfl, ho⟩ := hboth
          exact ⟨rules, ho, rfl, rfl⟩

/-- A rule set can be run if it has a rule and all its rules are well formed. -/
theorem build_eq_ok_iff {set : RuleSet} {m : Matcher} :
    set.build = .ok m ↔ ∃ rules, rules ≠ [] ∧ set.forms.map RuleForm.check = rules.map .ok ∧
      m = set.matcher rules := by
  unfold build Matcher.build
  by_cases hf : set.forms = []
  · simp only [hf, List.isEmpty_nil, if_true, reduceCtorEq, false_iff, not_exists, List.map_nil]
    intro rules hex
    obtain ⟨hne, h, -⟩ := hex
    exact hne (List.map_eq_nil_iff.1 h.symm)
  · simp only [List.isEmpty_iff, hf, if_false, bind_eq_ok, checkFrom_eq_ok_iff, pure_eq_ok,
      Except.ok.injEq, Option.getD_some]
    constructor
    · intro hex
      obtain ⟨rules, hc, rfl⟩ := hex
      refine ⟨rules, ?_, hc, rfl⟩
      intro hnil
      subst hnil
      exact hf (List.map_eq_nil_iff.1 hc)
    · intro hex
      obtain ⟨rules, -, hc, rfl⟩ := hex
      exact ⟨rules, hc, rfl⟩

theorem exists_rules_of_wellFormed {forms : List RuleForm}
    (h : ∀ form ∈ forms, ∃ rule, form.check = .ok rule) :
    ∃ rules : List Rule, forms.map RuleForm.check = rules.map .ok := by
  induction forms with
  | nil => exact ⟨[], rfl⟩
  | cons form forms ih =>
    rw [List.forall_mem_cons] at h
    obtain ⟨rule, hr⟩ := h.1
    obtain ⟨rules, hrs⟩ := ih h.2
    exact ⟨rule :: rules, by simp [hr, hrs]⟩

/-- What a rule set finds on a page. Its rules are checked first. -/
def outcome (page : Place) (context : Context) (set : RuleSet) : Except Fault (Option Match) := do
  (← set.build).run page context

def report (page : Place) (context : Context) (set : RuleSet) : List Event :=
  match set.outcome page context with
  | .ok (some found) => [.matched set.name found context.url]
  | _ => []

end RuleSet

namespace RuleTree

def reported (name : String) (url : Option String) :
    Except Fault (Option Match) → Traced (Option Value)
  | .error fault => ⟨[], .error fault⟩
  | .ok none => ⟨[], .ok none⟩
  | .ok (some found) => ⟨[.matched name found url], .ok (some found.value)⟩

variable {page : Place} {context : Context} {set : RuleSet} {m : Matcher}

theorem runRules_of_build (h : set.build = .ok m) :
    runRules page context set = reported set.name context.url (m.run page context) := by
  unfold runRules
  rw [h, Traced.ofExcept_ok_bind]
  cases hr : m.run page context with
  | error fault => rw [Traced.ofExcept_error_bind]; rfl
  | ok found =>
    rw [Traced.ofExcept_ok_bind]
    cases found <;> rfl

theorem runRules_eq_reported (page : Place) (context : Context) (set : RuleSet) :
    runRules page context set = reported set.name context.url (set.outcome page context) := by
  cases hb : set.build with
  | error fault =>
    simp only [RuleSet.outcome, hb, error_bind]
    rw [runRules, hb, Traced.ofExcept_error_bind]
    rfl
  | ok m =>
    simp only [RuleSet.outcome, hb, ok_bind]
    exact runRules_of_build hb

theorem runRules_of_fault {fault : Fault} (h : set.outcome page context = .error fault) :
    runRules page context set = ⟨[], .error fault⟩ := by
  rw [runRules_eq_reported, h]
  rfl

theorem runRules_of_outcome {found : Option Match} (h : set.outcome page context = .ok found) :
    runRules page context set = ⟨set.report page context, .ok (found.map (·.value))⟩ := by
  rw [runRules_eq_reported, RuleSet.report, h]
  cases found <;> rfl

theorem runRules_result_eq_ok_iff {value : Option Value} :
    (runRules page context set).result = .ok value ↔ ∃ m found, set.build = .ok m ∧
      m.run page context = .ok found ∧ found.map (·.value) = value := by
  cases hb : set.build with
  | error fault =>
    unfold runRules
    rw [hb, Traced.ofExcept_error_bind]
    simp
  | ok m =>
    rw [runRules_of_build hb]
    cases hr : m.run page context with
    | error fault => simp [reported, hr]
    | ok found => cases found <;> simp [reported, hr]

theorem runRules_with_forms {forms : List RuleForm} {rules : List Rule} (hb : set.build = .ok m)
    (hc : forms.map RuleForm.check = rules.map .ok) (hne : rules ≠ []) :
    runRules page context { set with forms := forms } =
      reported set.name context.url (m.tryFrom context page 0 rules) := by
  obtain ⟨old, -, -, rfl⟩ := RuleSet.build_eq_ok_iff.1 hb
  have h : ({ set with forms := forms } : RuleSet).build = .ok (set.matcher rules) :=
    RuleSet.build_eq_ok_iff.2 ⟨rules, hne, hc, rfl⟩
  rw [runRules_of_build h, Matcher.run]
  exact congrArg _ (Matcher.tryFrom_with_rules (set.matcher old) rules context page 0 rules)

end RuleTree
end LinkPreview
