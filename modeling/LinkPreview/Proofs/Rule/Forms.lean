import LinkPreview.Proofs.Rule.ShortCircuit
import Mathlib.Data.List.Forall2

set_option autoImplicit false

namespace LinkPreview

namespace RuleForm

/-- The ways to write a pair: a rule as such, or a row of two. -/
inductive Pairs (target : Option Target) (extract : Option Extractor) : RuleForm → Prop
  | rule : Pairs target extract (.rule target extract)
  | tuple : Pairs target extract (.tuple target [extract])
  | list : Pairs target extract (.list target [extract])

/-- What is wrong with a form. A form has one flaw at most: a pair has a shape, and what is given
for its extractor counts only beside a target. -/
inductive Flawed (form : RuleForm) : RuleFlaw → Prop
  | shape (h : ∀ target extract, ¬ Pairs target extract form) : Flawed form .shape
  | selector {extract : Option Extractor} (h : Pairs none extract form) : Flawed form .selector
  | extractor {target : Target} (h : Pairs (some target) none form) : Flawed form .extractor

def Malformed (form : RuleForm) : Prop := ∃ flaw, form.Flawed flaw

/-- Another form of the same pair. A form that is no pair stays as it is. -/
def Restates (again form : RuleForm) : Prop :=
  again = form ∨ ∃ target extract, Pairs target extract again ∧ Pairs target extract form

variable {form again : RuleForm} {target : Option Target} {extract : Option Extractor}

theorem parts?_eq_some_iff : form.parts? = some (target, extract) ↔ Pairs target extract form := by
  constructor
  · intro h
    unfold parts? at h
    split at h <;> cases h
    · exact .rule
    · exact .tuple
    · exact .list
  · intro h
    cases h <;> rfl

theorem parts?_eq_none_iff :
    form.parts? = none ↔ ∀ target extract, ¬ Pairs target extract form := by
  simp only [← parts?_eq_some_iff]
  cases form.parts? with
  | none => simp
  | some pair => simpa using ⟨pair.1, pair.2, rfl⟩

theorem check_eq_error_iff {flaw : RuleFlaw} : form.check = .error flaw ↔ form.Flawed flaw := by
  constructor
  · intro h
    unfold check at h
    split at h <;> cases h
    · exact .shape (parts?_eq_none_iff.1 ‹_›)
    · exact .selector (parts?_eq_some_iff.1 ‹_›)
    · exact .extractor (parts?_eq_some_iff.1 ‹_›)
  · intro h
    cases h with
    | shape h => simp [check, parts?_eq_none_iff.2 h]
    | selector h => simp [check, parts?_eq_some_iff.2 h]
    | extractor h => simp [check, parts?_eq_some_iff.2 h]

theorem not_malformed_iff : ¬ form.Malformed ↔ form.WellFormed := by
  unfold Malformed WellFormed
  simp only [← check_eq_error_iff]
  cases form.check <;> simp

theorem Restates.check (h : again.Restates form) : again.check = form.check := by
  obtain rfl | ⟨target, extract, ho, hf⟩ := h
  · rfl
  · rw [RuleForm.check, RuleForm.check, parts?_eq_some_iff.2 ho, parts?_eq_some_iff.2 hf]

end RuleForm

namespace RuleSet
variable {name : String} {position : Nat} {forms others : List RuleForm}

theorem checkFrom_of_flawed {before after : List RuleForm} {form : RuleForm} {flaw : RuleFlaw}
    (hb : ∀ f ∈ before, f.WellFormed) (hf : form.Flawed flaw) :
    checkFrom name position (before ++ form :: after) =
      .error (.malformedRule name (position + before.length) flaw) := by
  induction before generalizing position with
  | nil => simp [checkFrom, RuleForm.check_eq_error_iff.2 hf]
  | cons f before ih =>
    rw [List.forall_mem_cons] at hb
    obtain ⟨⟨rule, hr⟩, hb⟩ := hb
    simp only [List.cons_append, checkFrom, hr, ih hb, error_bind, List.length_cons,
      Nat.add_assoc, Nat.add_comm 1]

theorem checkFrom_congr (h : List.Forall₂ RuleForm.Restates others forms) :
    checkFrom name position others = checkFrom name position forms := by
  induction h generalizing position with
  | nil => rfl
  | cons hform _ ih => simp only [checkFrom, hform.check, ih]

theorem exists_first_malformed (h : ∃ form ∈ forms, form.Malformed) :
    ∃ before form after flaw, forms = before ++ form :: after ∧
      (∀ f ∈ before, f.WellFormed) ∧ form.Flawed flaw := by
  induction forms with
  | nil => simp at h
  | cons form forms ih =>
    by_cases hm : form.Malformed
    · obtain ⟨flaw, hf⟩ := hm
      exact ⟨[], form, forms, flaw, rfl, by simp, hf⟩
    · have hmore : ∃ form ∈ forms, form.Malformed := by simpa [hm] using h
      obtain ⟨before, first, after, flaw, rfl, hb, hf⟩ := ih hmore
      exact ⟨form :: before, first, after, flaw, rfl,
        List.forall_mem_cons.2 ⟨RuleForm.not_malformed_iff.1 hm, hb⟩, hf⟩

end RuleSet

namespace Matcher
variable {name : String} {forms others : List RuleForm} {processors : Option (List Processor)}
  {scorer : Option Scorer}

theorem build_eq_build :
    build name forms processors scorer =
      (⟨name, forms, processors.getD [], scorer⟩ : RuleSet).build := rfl

theorem build_of_flawed {before after : List RuleForm} {form : RuleForm} {flaw : RuleFlaw}
    (hb : ∀ f ∈ before, f.WellFormed) (hf : form.Flawed flaw) :
    build name (before ++ form :: after) processors scorer =
      .error (.malformedRule name before.length flaw) := by
  simp [build, RuleSet.checkFrom_of_flawed hb hf]

theorem build_cases (name : String) (forms : List RuleForm) (processors : Option (List Processor))
    (scorer : Option Scorer) :
    (forms = [] ∧ build name forms processors scorer = .error (.noRules name)) ∨
    (∃ before form after flaw, forms = before ++ form :: after ∧
      (∀ f ∈ before, f.WellFormed) ∧ form.Flawed flaw ∧
      build name forms processors scorer = .error (.malformedRule name before.length flaw)) ∨
    (forms ≠ [] ∧ (∀ form ∈ forms, form.WellFormed) ∧
      ∃ m, build name forms processors scorer = .ok m) := by
  by_cases hn : forms = []
  · subst hn
    exact .inl ⟨rfl, rfl⟩
  by_cases hm : ∃ form ∈ forms, form.Malformed
  · obtain ⟨before, form, after, flaw, rfl, hb, hf⟩ := RuleSet.exists_first_malformed hm
    exact .inr (.inl ⟨before, form, after, flaw, rfl, hb, hf, build_of_flawed hb hf⟩)
  · have hw : ∀ form ∈ forms, form.WellFormed := fun form hf =>
      RuleForm.not_malformed_iff.1 fun h => hm ⟨form, hf, h⟩
    obtain ⟨rules, hr⟩ := RuleSet.exists_rules_of_wellFormed hw
    have hne : rules ≠ [] := by
      intro he
      simp [he, hn] at hr
    exact .inr (.inr ⟨hn, hw, _, build_eq_build.trans
      (RuleSet.build_eq_ok_iff.2 ⟨rules, hne, hr, rfl⟩)⟩)

theorem kind_of_build {fault : Fault} (h : build name forms processors scorer = .error fault) :
    fault.kind = .value := by
  obtain ⟨-, hb⟩ | ⟨_, _, _, _, -, -, -, hb⟩ | ⟨-, -, _, hb⟩ :=
    build_cases name forms processors scorer
  · cases h.symm.trans hb
    rfl
  · cases h.symm.trans hb
    rfl
  · cases h.symm.trans hb

theorem build_fails_iff :
    (∃ fault, build name forms processors scorer = .error fault) ↔
      forms = [] ∨ ∃ form ∈ forms, form.Malformed := by
  obtain ⟨hn, hb⟩ | ⟨before, form, after, flaw, rfl, -, hf, hb⟩ | ⟨hn, hw, m, hb⟩ :=
    build_cases name forms processors scorer
  · exact iff_of_true ⟨_, hb⟩ (.inl hn)
  · exact iff_of_true ⟨_, hb⟩ (.inr ⟨form, by simp, flaw, hf⟩)
  · refine iff_of_false (by simp [hb]) ?_
    rintro (rfl | ⟨form, hmem, hm⟩)
    · exact hn rfl
    · exact RuleForm.not_malformed_iff.2 (hw form hmem) hm

theorem build_congr (h : List.Forall₂ RuleForm.Restates others forms) :
    build name others processors scorer = build name forms processors scorer := by
  have hn : others.isEmpty = forms.isEmpty := by cases h <;> rfl
  rw [build, build, hn, RuleSet.checkFrom_congr h]

/-- A list of forms makes no matcher if it is empty or has a malformed form, of which the first is
the one reported. The others make the same matcher however their rules are written. It makes no
difference whether the forms are those of a rule set. -/
theorem build_forms (name : String) (forms : List RuleForm) (processors : Option (List Processor))
    (scorer : Option Scorer) :
    (⟨name, forms, processors.getD [], scorer⟩ : RuleSet).build =
      build name forms processors scorer ∧
    (∀ fault, build name forms processors scorer = .error fault → fault.kind = .value) ∧
    ((∃ fault, build name forms processors scorer = .error fault) ↔
      forms = [] ∨ ∃ form ∈ forms, form.Malformed) ∧
    (∀ before form after flaw, forms = before ++ form :: after →
      (∀ f ∈ before, ¬ f.Malformed) → form.Flawed flaw →
      ∃ fault, build name forms processors scorer = .error fault ∧
        fault.message = s!"Rule {before.length} of ruleset '{name}' {flaw.message}") ∧
    (∀ m, build name forms processors scorer = .ok m →
      ∀ others, List.Forall₂ RuleForm.Restates others forms →
        build name others processors scorer = .ok m ∧
        (⟨name, others, processors.getD [], scorer⟩ : RuleSet).build = .ok m ∧
        ∀ page context,
          RuleTree.runRules page context ⟨name, others, processors.getD [], scorer⟩ =
            RuleTree.reported name context.url (m.run page context)) := by
  refine ⟨build_eq_build.symm, fun _ => kind_of_build, build_fails_iff, ?_, ?_⟩
  case refine_1 =>
    rintro before form after flaw rfl hb hf
    exact ⟨_, build_of_flawed (fun f h => RuleForm.not_malformed_iff.1 (hb f h)) hf, rfl⟩
  case refine_2 =>
    intro m hm others hr
    have ho : build name others processors scorer = .ok m := (build_congr hr).trans hm
    have hset : (⟨name, others, processors.getD [], scorer⟩ : RuleSet).build = .ok m :=
      build_eq_build.symm.trans ho
    exact ⟨ho, hset, fun page context => RuleTree.runRules_of_build hset⟩

theorem build_forms_title :
    (∃ fault, build "title" [.rule (some (.css "title")) (some .text), .tuple none [none], .other]
        none none = .error fault ∧
      fault.message = "Rule 1 of ruleset 'title' has an invalid selector") ∧
    ∀ page context,
      RuleTree.runRules page context
          ⟨"title", [.list (some (.css "title")) [some .text]], [], none⟩ =
        RuleTree.reported "title" context.url
          ((⟨"title", [⟨.css "title", .text⟩], [], none⟩ : Matcher).run page context) := by
  constructor
  · obtain ⟨-, -, -, hfirst, -⟩ := build_forms "title"
      [.rule (some (.css "title")) (some .text), .tuple none [none], .other] none none
    refine hfirst [.rule (some (.css "title")) (some .text)] (.tuple none [none]) [.other] .selector
      rfl ?_ (.selector .tuple)
    rw [List.forall_mem_singleton]
    exact RuleForm.not_malformed_iff.2 ⟨_, rfl⟩
  · obtain ⟨-, -, -, -, hagain⟩ := build_forms "title" [.rule (some (.css "title")) (some .text)] none
      none
    exact (hagain _ rfl _ (.cons (.inr ⟨_, _, .list, .rule⟩) .nil)).2.2

end Matcher
end LinkPreview
