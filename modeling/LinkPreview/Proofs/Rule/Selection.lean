import LinkPreview.Proofs.Outcome

set_option autoImplicit false

namespace LinkPreview

namespace Rule

/-- Nothing goes wrong at an element, and there is no value: the raw one or the processed one is
empty. -/
def Skips (rule : Rule) (processors : List Processor) (context : Context) (element : Place) :
    Prop :=
  ∃ raw, rule.extract element = .ok raw ∧
    (raw.isEmpty = true ∨
      ∃ value, Matcher.processAll context processors raw = .ok value ∧ value.isEmpty = true)

def Yields (rule : Rule) (processors : List Processor) (context : Context) (element : Place)
    (value : Value) : Prop :=
  ∃ raw, rule.extract element = .ok raw ∧ raw.isEmpty = false ∧
    Matcher.processAll context processors raw = .ok value ∧ value.isEmpty = false

/-- Nothing goes wrong with a rule on a page, and it finds no value there. -/
def Barren (rule : Rule) (processors : List Processor) (page : Place) (context : Context) :
    Prop :=
  ∃ elements, rule.target.pick page = .ok elements ∧
    ∀ element ∈ elements, rule.Skips processors context element

end Rule

namespace Matcher
variable {m : Matcher} {context : Context} {page : Place} {rule : Rule}

theorem valueAt_eq_none_iff {element : Place} :
    m.valueAt context rule element = .ok none ↔ rule.Skips m.processors context element := by
  simp only [valueAt, bind_eq_ok, Rule.Skips]
  refine exists_congr fun raw => and_congr_right fun _ => ?_
  by_cases hr : raw.isEmpty = true
  · simp [hr]
  · simp only [hr, if_false, bind_eq_ok, false_or, pure_eq_ok, Except.ok.injEq, Bool.false_eq_true]
    refine exists_congr fun value => and_congr_right fun _ => ?_
    by_cases hv : value.isEmpty = true <;> simp [hv]

theorem valueAt_eq_some_iff {element : Place} {value : Value} :
    m.valueAt context rule element = .ok (some value) ↔
      rule.Yields m.processors context element value := by
  simp only [valueAt, bind_eq_ok, Rule.Yields]
  refine exists_congr fun raw => and_congr_right fun _ => ?_
  by_cases hr : raw.isEmpty = true
  · simp [hr]
  · simp only [hr, if_false, bind_eq_ok, pure_eq_ok, Except.ok.injEq, Bool.false_eq_true, true_and]
    constructor
    · intro hex
      obtain ⟨v, hv, h⟩ := hex
      by_cases he : v.isEmpty = true
      · simp [he] at h
      · simp only [he, Bool.false_eq_true, if_false, Option.some.injEq] at h
        subst h
        exact ⟨hv, by simpa using he⟩
    · intro hboth
      obtain ⟨hv, he⟩ := hboth
      exact ⟨value, hv, by simp [he]⟩

theorem firstValue_append {passed rest : List Place}
    (h : ∀ element ∈ passed, m.valueAt context rule element = .ok none) :
    m.firstValue context rule (passed ++ rest) = m.firstValue context rule rest := by
  induction passed with
  | nil => rfl
  | cons element passed ih =>
    rw [List.forall_mem_cons] at h
    rw [List.cons_append, firstValue, h.1, ok_bind, ih h.2]

theorem firstValue_cons_of_some {element : Place} {value : Value} (rest : List Place)
    (h : m.valueAt context rule element = .ok (some value)) :
    m.firstValue context rule (element :: rest) = .ok (some value) := by
  rw [firstValue, h]
  rfl

theorem exists_of_firstValue_eq_some {elements : List Place} {value : Value}
    (h : m.firstValue context rule elements = .ok (some value)) :
    ∃ passed winner rest, elements = passed ++ winner :: rest ∧
      (∀ element ∈ passed, m.valueAt context rule element = .ok none) ∧
      m.valueAt context rule winner = .ok (some value) := by
  induction elements with
  | nil => simp [firstValue] at h
  | cons element more ih =>
    obtain ⟨found, hf, h⟩ := bind_eq_ok.1 h
    cases found with
    | some v =>
      simp only [pure_eq_ok, Except.ok.injEq, Option.some.injEq] at h
      subst h
      exact ⟨[], element, more, rfl, by simp, hf⟩
    | none =>
      obtain ⟨passed, winner, rest, rfl, hp, hw⟩ := ih h
      exact ⟨element :: passed, winner, rest, rfl, List.forall_mem_cons.2 ⟨hf, hp⟩, hw⟩

theorem firstValue_eq_none_iff {elements : List Place} :
    m.firstValue context rule elements = .ok none ↔
      ∀ element ∈ elements, m.valueAt context rule element = .ok none := by
  induction elements with
  | nil => simp [firstValue]
  | cons element more ih =>
    rw [firstValue, List.forall_mem_cons, ← ih]
    refine search_eq_ok_iff ?_
    intro v
    simp

theorem firstValue_eq_findSome? {value? : Place → Option Value}
    (h : ∀ element, m.valueAt context rule element = .ok (value? element))
    (elements : List Place) :
    m.firstValue context rule elements = .ok (elements.findSome? value?) := by
  induction elements with
  | nil => rfl
  | cons element more ih =>
    rw [firstValue, h element, ok_bind, List.findSome?_cons, ih]
    cases value? element <;> rfl

theorem candidates_eq_nil_iff {elements : List Place} :
    m.candidates context rule elements = .ok [] ↔
      ∀ element ∈ elements, m.valueAt context rule element = .ok none := by
  induction elements with
  | nil => simp [candidates]
  | cons element more ih =>
    rw [candidates, List.forall_mem_cons, ← ih]
    refine search_eq_ok_iff ?_
    intro v
    simp [bind_eq_ok]

theorem valueAt_of_mem_candidates {elements : List Place} {cs : List Candidate}
    (h : m.candidates context rule elements = .ok cs) :
    ∀ c ∈ cs, m.valueAt context rule c.element = .ok (some c.value) := by
  induction elements generalizing cs with
  | nil =>
    simp only [candidates, Except.ok.injEq] at h
    simp [← h]
  | cons element more ih =>
    obtain ⟨found, hf, h⟩ := bind_eq_ok.1 h
    cases found with
    | none => exact ih h
    | some v =>
      obtain ⟨others, ho, h⟩ := bind_eq_ok.1 h
      simp only [pure_eq_ok, Except.ok.injEq] at h
      rw [← h, List.forall_mem_cons]
      exact ⟨hf, ih ho⟩

theorem element_of_mem_candidates {elements : List Place} {cs : List Candidate}
    (h : m.candidates context rule elements = .ok cs) : ∀ c ∈ cs, c.element ∈ elements := by
  induction elements generalizing cs with
  | nil =>
    simp only [candidates, Except.ok.injEq] at h
    simp [← h]
  | cons element more ih =>
    obtain ⟨found, -, h⟩ := bind_eq_ok.1 h
    cases found with
    | none => exact fun c hc => List.mem_cons_of_mem element (ih h c hc)
    | some v =>
      obtain ⟨others, ho, h⟩ := bind_eq_ok.1 h
      simp only [pure_eq_ok, Except.ok.injEq] at h
      rw [← h, List.forall_mem_cons]
      exact ⟨List.mem_cons_self, fun c hc => List.mem_cons_of_mem element (ih ho c hc)⟩

end Matcher

namespace Candidate
variable {score : Scorer} {v : Value} {s : Option Number}

theorem challenge_mem {best : Value} {bestScore : Option Number} {more : List Candidate}
    (h : challenge score best bestScore more = .ok (v, s)) :
    v = best ∨ ∃ c ∈ more, c.value = v := by
  induction more generalizing best bestScore with
  | nil =>
    simp only [challenge, Except.ok.injEq, Prod.mk.injEq] at h
    exact .inl h.1.symm
  | cons c more ih =>
    obtain ⟨t, _, h⟩ := bind_eq_ok.1 h
    obtain ⟨better, _, h⟩ := bind_eq_ok.1 h
    cases better with
    | true =>
      obtain rfl | ⟨d, hd, rfl⟩ := ih h
      · exact .inr ⟨c, List.mem_cons_self, rfl⟩
      · exact .inr ⟨d, List.mem_cons_of_mem c hd, rfl⟩
    | false =>
      obtain rfl | ⟨d, hd, rfl⟩ := ih h
      · exact .inl rfl
      · exact .inr ⟨d, List.mem_cons_of_mem c hd, rfl⟩

theorem best_mem {first : Candidate} {more : List Candidate}
    (h : best score first more = .ok (v, s)) : ∃ c ∈ first :: more, c.value = v := by
  obtain ⟨t, _, h⟩ := bind_eq_ok.1 h
  obtain rfl | ⟨c, hc, rfl⟩ := challenge_mem h
  · exact ⟨first, List.mem_cons_self, rfl⟩
  · exact ⟨c, List.mem_cons_of_mem first hc, rfl⟩

end Candidate

namespace Matcher
variable {m : Matcher} {context : Context} {page : Place} {rule : Rule}

theorem barren_iff :
    rule.Barren m.processors page context ↔ ∃ elements, rule.target.pick page = .ok elements ∧
      ∀ element ∈ elements, m.valueAt context rule element = .ok none := by
  simp only [Rule.Barren, valueAt_eq_none_iff]

theorem tryRule_eq_none_iff {position : Nat} :
    m.tryRule context page position rule = .ok none ↔
      rule.Barren m.processors page context := by
  rw [tryRule, bind_eq_ok, barren_iff]
  refine exists_congr fun elements => and_congr_right fun _ => ?_
  cases m.scorer with
  | none =>
    rw [← firstValue_eq_none_iff]
    cases m.firstValue context rule elements with
    | error fault => simp
    | ok found => cases found <;> simp
  | some score =>
    rw [← candidates_eq_nil_iff]
    cases m.candidates context rule elements with
    | error fault => simp
    | ok cs =>
      cases cs with
      | nil => simp
      | cons first more => simp [bind_eq_ok]

theorem exists_best_of_tryRule {score : Scorer} {position : Nat} {found : Match}
    (hs : m.scorer = some score)
    (h : m.tryRule context page position rule = .ok (some found)) :
    ∃ elements first more v s, rule.target.pick page = .ok elements ∧
      m.candidates context rule elements = .ok (first :: more) ∧
      Candidate.best score first more = .ok (v, s) ∧
      found = ⟨v, position, some ⟨more.length + 1, s⟩⟩ := by
  obtain ⟨elements, hp, h⟩ := bind_eq_ok.1 h
  rw [hs] at h
  obtain ⟨cs, hc, h⟩ := bind_eq_ok.1 h
  cases cs with
  | nil => simp at h
  | cons first more =>
    obtain ⟨⟨v, s⟩, hb, h⟩ := bind_eq_ok.1 h
    simp only [pure_eq_ok, Except.ok.injEq, Option.some.injEq] at h
    exact ⟨elements, first, more, v, s, hp, hc, hb, h.symm⟩

/-- A rule finds the same at every position. -/
theorem tryRule_eq_some {position : Nat} {found : Match}
    (h : m.tryRule context page position rule = .ok (some found)) :
    found.position = position ∧ ∀ p,
      m.tryRule context page p rule = .ok (some { found with position := p }) := by
  cases hs : m.scorer with
  | none =>
    obtain ⟨elements, hp, h⟩ := bind_eq_ok.1 h
    simp only [hs, bind_eq_ok, pure_eq_ok, Except.ok.injEq, Option.map_eq_some_iff] at h
    obtain ⟨value, hv, v, rfl, rfl⟩ := h
    simp [tryRule, hp, hs, hv]
  | some score =>
    obtain ⟨elements, first, more, v, s, hp, hc, hb, rfl⟩ := exists_best_of_tryRule hs h
    simp [tryRule, hp, hs, hc, hb]

theorem exists_valueAt_of_tryRule {position : Nat} {found : Match}
    (h : m.tryRule context page position rule = .ok (some found)) :
    ∃ elements, rule.target.pick page = .ok elements ∧
      ∃ element ∈ elements, m.valueAt context rule element = .ok (some found.value) := by
  cases hs : m.scorer with
  | none =>
    obtain ⟨elements, hp, h⟩ := bind_eq_ok.1 h
    simp only [hs, bind_eq_ok, pure_eq_ok, Except.ok.injEq, Option.map_eq_some_iff] at h
    obtain ⟨value, hv, v, rfl, rfl⟩ := h
    obtain ⟨passed, winner, rest, rfl, -, hw⟩ := exists_of_firstValue_eq_some hv
    exact ⟨_, hp, winner, List.mem_append_right passed List.mem_cons_self, hw⟩
  | some score =>
    obtain ⟨elements, first, more, v, s, hp, hc, hb, rfl⟩ := exists_best_of_tryRule hs h
    obtain ⟨c, hm, rfl⟩ := Candidate.best_mem hb
    exact ⟨elements, hp, c.element, element_of_mem_candidates hc c hm,
      valueAt_of_mem_candidates hc c hm⟩

theorem tryFrom_append {before more : List Rule} (position : Nat)
    (h : ∀ rule ∈ before, rule.Barren m.processors page context) :
    m.tryFrom context page position (before ++ more) =
      m.tryFrom context page (position + before.length) more := by
  induction before generalizing position with
  | nil => rfl
  | cons rule before ih =>
    rw [List.forall_mem_cons] at h
    rw [List.cons_append, tryFrom, tryRule_eq_none_iff.2 h.1, ok_bind, ih _ h.2]
    simp [Nat.add_assoc, Nat.add_comm 1]

theorem tryFrom_cons_of_some {position : Nat} {found : Match} (more : List Rule)
    (h : m.tryRule context page position rule = .ok (some found)) :
    m.tryFrom context page position (rule :: more) = .ok (some found) := by
  rw [tryFrom, h]
  rfl

theorem tryFrom_eq_none_iff {position : Nat} {rules : List Rule} :
    m.tryFrom context page position rules = .ok none ↔
      ∀ rule ∈ rules, rule.Barren m.processors page context := by
  induction rules generalizing position with
  | nil => simp [tryFrom]
  | cons rule more ih =>
    rw [tryFrom, List.forall_mem_cons, ← ih, ← tryRule_eq_none_iff]
    refine search_eq_ok_iff ?_
    intro found
    simp

theorem exists_of_tryFrom_eq_some {position : Nat} {rules : List Rule} {found : Match}
    (h : m.tryFrom context page position rules = .ok (some found)) :
    ∃ before rule after, rules = before ++ rule :: after ∧
      (∀ r ∈ before, r.Barren m.processors page context) ∧
      m.tryRule context page (position + before.length) rule = .ok (some found) := by
  induction rules generalizing position with
  | nil => simp [tryFrom] at h
  | cons rule more ih =>
    obtain ⟨tried, ht, h⟩ := bind_eq_ok.1 h
    cases tried with
    | some f =>
      simp only [pure_eq_ok, Except.ok.injEq, Option.some.injEq] at h
      subst h
      exact ⟨[], rule, more, rfl, by simp, ht⟩
    | none =>
      obtain ⟨before, r, after, rfl, hb, hr⟩ := ih h
      refine ⟨rule :: before, r, after, rfl, ?_, ?_⟩
      · exact List.forall_mem_cons.2 ⟨tryRule_eq_none_iff.1 ht, hb⟩
      · simpa [Nat.add_assoc, Nat.add_comm 1] using hr

/-- No result of a matcher is empty. -/
theorem run_not_empty {found : Match} (h : m.run page context = .ok (some found)) :
    found.value.isEmpty = false := by
  obtain ⟨before, rule, after, -, -, ht⟩ := exists_of_tryFrom_eq_some h
  obtain ⟨_, -, element, -, hv⟩ := exists_valueAt_of_tryRule ht
  obtain ⟨raw, -, -, -, he⟩ := valueAt_eq_some_iff.1 hv
  exact he

section
variable {other : Matcher} {rule' : Rule}

theorem firstValue_of_values
    (h : ∀ element, other.valueAt context rule' element = m.valueAt context rule element)
    (elements : List Place) :
    other.firstValue context rule' elements = m.firstValue context rule elements := by
  induction elements with
  | nil => rfl
  | cons element more ih => rw [firstValue, firstValue, h element, ih]

theorem candidates_of_values
    (h : ∀ element, other.valueAt context rule' element = m.valueAt context rule element)
    (elements : List Place) :
    other.candidates context rule' elements = m.candidates context rule elements := by
  induction elements with
  | nil => rfl
  | cons element more ih => rw [candidates, candidates, h element, ih]

theorem tryFrom_of_values (hs : other.scorer = m.scorer)
    (h : ∀ rule element, other.valueAt context rule element = m.valueAt context rule element)
    (position : Nat) (rules : List Rule) :
    other.tryFrom context page position rules = m.tryFrom context page position rules := by
  induction rules generalizing position with
  | nil => rfl
  | cons rule more ih =>
    simp only [tryFrom, ih, tryRule, hs, firstValue_of_values (h rule),
      candidates_of_values (h rule)]

end

theorem tryFrom_with_rules (m : Matcher) (others : List Rule) (context : Context) (page : Place)
    (position : Nat) (rules : List Rule) :
    { m with rules := others }.tryFrom context page position rules =
      m.tryFrom context page position rules := by
  refine tryFrom_of_values ?_ ?_ position rules
  · rfl
  · exact fun _ _ => rfl

end Matcher
end LinkPreview
