import LinkPreview.Proofs.Rule.Report

set_option autoImplicit false

namespace LinkPreview

namespace Matcher

/-- The rules before one of the rules find nothing, so it is tried. -/
def Tries (m : Matcher) (page : Place) (context : Context) (rules : List Rule) (rule : Rule) :
    Prop :=
  ∃ before after, rules = before ++ rule :: after ∧
    ∀ r ∈ before, r.Barren m.processors page context

/-- Without a scorer, the elements after the first that has a value are not looked at. -/
def LooksAt (m : Matcher) (page : Place) (context : Context) (rule : Rule) (element : Place) :
    Prop :=
  ∃ passed rest, rule.target.pick page = .ok (passed ++ element :: rest) ∧
    (m.scorer = none → ∀ e ∈ passed, rule.Skips m.processors context e)

def Gives (m : Matcher) (page : Place) (context : Context) (process : Processor) (v : Value) :
    Prop :=
  ∃ rule element raw first last, m.Tries page context m.rules rule ∧
    m.LooksAt page context rule element ∧ rule.extract element = .ok raw ∧
    raw.isEmpty = false ∧ m.processors = first ++ process :: last ∧
    processAll context first raw = .ok v

variable {m : Matcher} {page : Place} {context other : Context} {rule : Rule}

theorem processAll_congr {processors : List Processor} {raw : Value}
    (h : ∀ first process last v, processors = first ++ process :: last →
      processAll context first raw = .ok v → process v other = process v context) :
    processAll other processors raw = processAll context processors raw := by
  induction processors generalizing raw with
  | nil => rfl
  | cons process more ih =>
    rw [processAll, processAll, h [] process more raw rfl rfl]
    cases hp : process raw context with
    | error fault => rfl
    | ok w =>
      rw [ok_bind, ok_bind]
      refine ih ?_
      intro first next last v he hv
      refine h (process :: first) next last v (by rw [he]; rfl) ?_
      rw [processAll, hp, ok_bind, hv]

theorem valueAt_congr {element : Place}
    (h : ∀ raw, rule.extract element = .ok raw → raw.isEmpty = false →
      processAll other m.processors raw = processAll context m.processors raw) :
    m.valueAt other rule element = m.valueAt context rule element := by
  unfold valueAt
  cases hr : rule.extract element with
  | error fault => rfl
  | ok raw =>
    rw [ok_bind, ok_bind]
    cases he : raw.isEmpty with
    | true => rfl
    | false => rw [h raw hr he]

theorem firstValue_congr {elements : List Place}
    (h : ∀ passed element rest, elements = passed ++ element :: rest →
      (∀ e ∈ passed, m.valueAt context rule e = .ok none) →
        m.valueAt other rule element = m.valueAt context rule element) :
    m.firstValue other rule elements = m.firstValue context rule elements := by
  induction elements with
  | nil => rfl
  | cons element more ih =>
    rw [firstValue, firstValue, h [] element more rfl (by simp)]
    cases hv : m.valueAt context rule element with
    | error fault => rfl
    | ok found =>
      rw [ok_bind, ok_bind]
      cases found with
      | some v => rfl
      | none =>
        refine ih ?_
        intro passed e rest he hp
        exact h (element :: passed) e rest (by rw [he]; rfl) (List.forall_mem_cons.2 ⟨hv, hp⟩)

theorem candidates_congr {elements : List Place}
    (h : ∀ element ∈ elements,
      m.valueAt other rule element = m.valueAt context rule element) :
    m.candidates other rule elements = m.candidates context rule elements := by
  induction elements with
  | nil => rfl
  | cons element more ih =>
    rw [List.forall_mem_cons] at h
    rw [candidates, candidates, h.1, ih h.2]

theorem tryRule_congr (position : Nat)
    (h : ∀ element, m.LooksAt page context rule element →
      m.valueAt other rule element = m.valueAt context rule element) :
    m.tryRule other page position rule = m.tryRule context page position rule := by
  unfold tryRule
  cases hpick : rule.target.pick page with
  | error fault => rfl
  | ok elements =>
    rw [ok_bind, ok_bind]
    cases hs : m.scorer with
    | none =>
      have hsame : m.firstValue other rule elements = m.firstValue context rule elements := by
        refine firstValue_congr ?_
        intro passed element rest he hp
        refine h element ⟨passed, rest, by rw [hpick, he], fun _ => ?_⟩
        exact fun e hm => valueAt_eq_none_iff.1 (hp e hm)
      rw [hsame]
    | some score =>
      have hsame : m.candidates other rule elements = m.candidates context rule elements := by
        refine candidates_congr ?_
        intro element hm
        obtain ⟨passed, rest, he⟩ := List.append_of_mem hm
        exact h element ⟨passed, rest, by rw [hpick, he], fun hn => by simp [hs] at hn⟩
      rw [hsame]

theorem tryFrom_congr {position : Nat} {rules : List Rule}
    (h : ∀ rule, m.Tries page context rules rule → ∀ p,
      m.tryRule other page p rule = m.tryRule context page p rule) :
    m.tryFrom other page position rules = m.tryFrom context page position rules := by
  induction rules generalizing position with
  | nil => rfl
  | cons rule more ih =>
    rw [tryFrom, tryFrom, h rule ⟨[], more, rfl, by simp⟩]
    cases ht : m.tryRule context page position rule with
    | error fault => rfl
    | ok found =>
      rw [ok_bind, ok_bind]
      cases found with
      | some v => rfl
      | none =>
        refine ih ?_
        intro r htries
        obtain ⟨before, after, he, hb⟩ := htries
        refine h r ⟨rule :: before, after, by rw [he]; rfl, ?_⟩
        exact List.forall_mem_cons.2 ⟨tryRule_eq_none_iff.1 ht, hb⟩

theorem run_congr (h : ∀ process v, m.Gives page context process v →
      process v other = process v context) : m.run page other = m.run page context := by
  refine tryFrom_congr ?_
  intro rule htries p
  refine tryRule_congr p ?_
  intro element hlooks
  refine valueAt_congr ?_
  intro raw hraw hne
  refine processAll_congr ?_
  intro first process last v hsplit hv
  exact h process v ⟨rule, element, raw, first, last, htries, hlooks, hraw, hne, hsplit, hv⟩

end Matcher

def RuleSet.Gives (set : RuleSet) (page : Place) (context : Context) (process : Processor)
    (v : Value) : Prop :=
  ∃ m, set.build = .ok m ∧ m.Gives page context process v

theorem RuleSet.Gives.mem_processors {set : RuleSet} {page : Place} {context : Context}
    {process : Processor} {v : Value} (h : set.Gives page context process v) :
    process ∈ set.processors := by
  obtain ⟨m, hm, rule, element, raw, first, last, -, -, -, -, hsplit, -⟩ := h
  obtain ⟨rules, -, -, rfl⟩ := RuleSet.build_eq_ok_iff.1 hm
  show process ∈ (set.matcher rules).processors
  rw [hsplit]
  exact List.mem_append_right first List.mem_cons_self

theorem RuleTree.runRules_congr {page : Place} {context other : Context} {set : RuleSet}
    (hurl : other.url = context.url)
    (h : ∀ process v, set.Gives page context process v →
      process v other = process v context) :
    runRules page other set = runRules page context set := by
  have houtcome : set.outcome page other = set.outcome page context := by
    unfold RuleSet.outcome
    cases hm : set.build with
    | error fault => rfl
    | ok m => exact Matcher.run_congr fun process v hgives => h process v ⟨m, hm, hgives⟩
  rw [runRules_eq_reported, runRules_eq_reported, houtcome, hurl]

end LinkPreview
