import LinkPreview.Proofs.Rule.Report
import LinkPreview.Catalog.Parts

set_option autoImplicit false

namespace LinkPreview

def RuleForm.WellFormed (form : RuleForm) : Prop := ∃ rule, form.check = .ok rule

namespace Rule
variable {rule rule' : Rule} {processors : List Processor} {context : Context} {element : Place}

theorem Skips.congr (he : rule'.extract element = rule.extract element)
    (h : rule.Skips processors context element) : rule'.Skips processors context element := by
  rw [Skips, he]
  exact h

theorem Yields.congr {value : Value} (he : rule'.extract element = rule.extract element)
    (h : rule.Yields processors context element value) :
    rule'.Yields processors context element value := by
  rw [Yields, he]
  exact h

end Rule

namespace Matcher
variable {m : Matcher} {context : Context} {page : Place} {rule : Rule} {found : Match}

/-- Without a scorer, a rule decides by the first element that yields a value. -/
theorem exists_winner {position : Nat} (hs : m.scorer = none)
    (h : m.tryRule context page position rule = .ok (some found)) :
    ∃ passed winner rest, rule.target.pick page = .ok (passed ++ winner :: rest) ∧
      (∀ element ∈ passed, rule.Skips m.processors context element) ∧
      rule.Yields m.processors context winner found.value ∧ found.ranking = none := by
  obtain ⟨elements, hp, h⟩ := bind_eq_ok.1 h
  simp only [hs, bind_eq_ok, pure_eq_ok, Except.ok.injEq, Option.map_eq_some_iff] at h
  obtain ⟨value, hv, v, rfl, rfl⟩ := h
  obtain ⟨passed, winner, rest, rfl, hpassed, hwinner⟩ := exists_of_firstValue_eq_some hv
  refine ⟨passed, winner, rest, hp, ?_, valueAt_eq_some_iff.1 hwinner, rfl⟩
  intro element he
  exact valueAt_eq_none_iff.1 (hpassed element he)

theorem tryRule_of_winner {passed rest : List Place} {winner : Place} {value : Value}
    (position : Nat) (hs : m.scorer = none)
    (hp : rule.target.pick page = .ok (passed ++ winner :: rest))
    (hpassed : ∀ element ∈ passed, rule.Skips m.processors context element)
    (hwinner : rule.Yields m.processors context winner value) :
    m.tryRule context page position rule = .ok (some ⟨value, position, none⟩) := by
  have hskip : ∀ element ∈ passed, m.valueAt context rule element = .ok none :=
    fun element he => valueAt_eq_none_iff.2 (hpassed element he)
  have hfirst : m.firstValue context rule (passed ++ winner :: rest) = .ok (some value) := by
    rw [firstValue_append hskip]
    exact firstValue_cons_of_some rest (valueAt_eq_some_iff.2 hwinner)
  simp [tryRule, hp, hs, hfirst]

theorem tryFrom_decided {before : List Rule} (later : List Rule)
    (hb : ∀ r ∈ before, r.Barren m.processors page context)
    (ht : m.tryRule context page before.length rule = .ok (some found)) :
    m.tryFrom context page 0 (before ++ rule :: later) = .ok (some found) := by
  rw [tryFrom_append 0 hb, Nat.zero_add]
  exact tryFrom_cons_of_some later ht

end Matcher

namespace RuleSet

theorem wellFormed_of_check {forms : List RuleForm} {rules : List Rule}
    (hc : forms.map RuleForm.check = rules.map .ok) : ∀ form ∈ forms, form.WellFormed := by
  intro form hf
  have hmem : form.check ∈ rules.map Except.ok := hc ▸ List.mem_map_of_mem hf
  obtain ⟨rule, -, hr⟩ := List.mem_map.1 hmem
  exact ⟨rule, hr.symm⟩

theorem check_take {forms : List RuleForm} {rules : List Rule} (n : Nat)
    (hc : forms.map RuleForm.check = rules.map .ok) :
    (forms.take n).map RuleForm.check = (rules.take n).map .ok := by
  rw [List.map_take, hc, List.map_take]

theorem check_drop {forms : List RuleForm} {rules : List Rule} (n : Nat)
    (hc : forms.map RuleForm.check = rules.map .ok) :
    (forms.drop n).map RuleForm.check = (rules.drop n).map .ok := by
  rw [List.map_drop, hc, List.map_drop]

/-- How a run that finds something goes: the rules before are barren, and the next one decides. -/
structure Decision (set : RuleSet) (page : Place) (context : Context) (before : List Rule)
    (rule : Rule) (after : List Rule) (found : Match) : Prop where
  check : set.forms.map RuleForm.check = (before ++ rule :: after).map .ok
  barren : ∀ r ∈ before, r.Barren set.processors page context
  tried : (set.matcher (before ++ rule :: after)).tryRule context page before.length rule =
    .ok (some found)

end RuleSet

namespace RuleTree
open RuleSet
variable {set : RuleSet} {page : Place} {context : Context}

theorem exists_decision {value : Value}
    (h : (runRules page context set).result = .ok (some value)) :
    ∃ before rule after found,
      set.Decision page context before rule after found ∧ found.value = value := by
  obtain ⟨m, found?, hm, hr, hv⟩ := runRules_result_eq_ok_iff.1 h
  obtain ⟨found, rfl, hvalue⟩ := Option.map_eq_some_iff.1 hv
  obtain ⟨rules, -, hc, rfl⟩ := build_eq_ok_iff.1 hm
  obtain ⟨before, rule, after, hs, hb, ht⟩ := Matcher.exists_of_tryFrom_eq_some hr
  have hrules : rules = before ++ rule :: after := hs
  subst hrules
  rw [Nat.zero_add] at ht
  exact ⟨before, rule, after, found, ⟨hc, hb, ht⟩, hvalue⟩

theorem runRules_decided {before : List Rule} {rule : Rule} {found : Match} {m : Matcher}
    {forms later : List RuleForm} (hm : set.build = .ok m)
    (hc : forms.map RuleForm.check = (before ++ [rule]).map .ok)
    (hl : ∀ form ∈ later, form.WellFormed)
    (hb : ∀ r ∈ before, r.Barren m.processors page context)
    (ht : m.tryRule context page before.length rule = .ok (some found)) :
    runRules page context { set with forms := forms ++ later } =
      ⟨[.matched set.name found context.url], .ok (some found.value)⟩ := by
  obtain ⟨rules, hr⟩ := exists_rules_of_wellFormed hl
  have hall : (forms ++ later).map RuleForm.check =
      (before ++ rule :: rules).map Except.ok := by simp [hc, hr]
  rw [runRules_with_forms hm hall (by simp), Matcher.tryFrom_decided rules hb ht]
  rfl

end RuleTree

namespace RuleSet.Decision
open RuleTree
variable {set : RuleSet} {page : Place} {context : Context} {before after : List Rule}
  {rule : Rule} {found : Match}
  (d : set.Decision page context before rule after found)
include d

theorem build : set.build = .ok (set.matcher (before ++ rule :: after)) :=
  build_eq_ok_iff.2 ⟨_, by simp, d.check, rfl⟩

theorem position : found.position = before.length := (Matcher.tryRule_eq_some d.tried).1

theorem form : ∃ form, set.forms[found.position]? = some form ∧ form.check = .ok rule := by
  have hget := congrArg (·[before.length]?) d.check
  rw [d.position]
  simpa using hget

theorem runRules_take {later : List RuleForm} (hl : ∀ form ∈ later, form.WellFormed) :
    runRules page context { set with forms := set.forms.take (found.position + 1) ++ later } =
      ⟨[.matched set.name found context.url], .ok (some found.value)⟩ := by
  have hrules : (before ++ rule :: after).take (before.length + 1) = before ++ [rule] := by
    simp [List.take_append, List.take_of_length_le]
  have htake := check_take (before.length + 1) d.check
  rw [hrules, ← d.position] at htake
  exact runRules_decided d.build htake hl d.barren d.tried

theorem runRules_append {later : List RuleForm} (hl : ∀ form ∈ later, form.WellFormed) :
    runRules page context { set with forms := set.forms ++ later } =
      ⟨[.matched set.name found context.url], .ok (some found.value)⟩ := by
  have hrest : ∀ form ∈ set.forms.drop (found.position + 1) ++ later, form.WellFormed := by
    intro form hf
    rcases List.mem_append.1 hf with hf | hf
    · exact wellFormed_of_check (check_drop _ d.check) form hf
    · exact hl form hf
  have hrun := d.runRules_take hrest
  rwa [← List.append_assoc, List.take_append_drop] at hrun

theorem runRules_eq : runRules page context set =
    ⟨[.matched set.name found context.url], .ok (some found.value)⟩ := by
  have hnone : ∀ form ∈ ([] : List RuleForm), form.WellFormed := by simp
  have hrun := d.runRules_append hnone
  rwa [List.append_nil] at hrun

/-- Another rule in the place of the one that decides, which agrees with it up to its winner. -/
theorem runRules_winner {passed others : List Place} {winner : Place}
    {form' : RuleForm} {rule' : Rule} {later : List RuleForm} (hs : set.scorer = none)
    (hpassed : ∀ element ∈ passed, rule.Skips set.processors context element)
    (hwinner : rule.Yields set.processors context winner found.value)
    (hranking : found.ranking = none) (hf : form'.check = .ok rule')
    (hp : rule'.target.pick page = .ok (passed ++ winner :: others))
    (he : ∀ element ∈ passed ++ [winner], rule'.extract element = rule.extract element)
    (hl : ∀ form ∈ later, form.WellFormed) :
    runRules page context { set with forms := set.forms.take found.position ++ form' :: later } =
      ⟨[.matched set.name found context.url], .ok (some found.value)⟩ := by
  have hpassed' : ∀ element ∈ passed, rule'.Skips set.processors context element :=
    fun element hmem => (hpassed element hmem).congr (he element (by simp [hmem]))
  have hwinner' := hwinner.congr (he winner (by simp))
  have ht := Matcher.tryRule_of_winner (m := set.matcher (before ++ rule :: after)) before.length
    hs hp hpassed' hwinner'
  have hfound : found = ⟨found.value, before.length, none⟩ := by
    rw [← d.position, ← hranking]
  have hforms : (set.forms.take found.position ++ [form']).map RuleForm.check =
      (before ++ [rule']).map .ok := by
    rw [List.map_append, check_take _ d.check, d.position]
    simp [hf]
  rw [← hfound] at ht
  have hrun := runRules_decided d.build hforms hl d.barren ht
  rwa [List.append_assoc, List.singleton_append] at hrun

theorem runRules_insert {j : Nat} (hj : j ≤ found.position) {form : RuleForm} {r : Rule}
    (hf : form.check = .ok r) (hr : r.Barren set.processors page context) :
    runRules page context { set with forms := set.forms.take j ++ form :: set.forms.drop j } =
      ⟨[.matched set.name { found with position := found.position + 1 } context.url],
        .ok (some found.value)⟩ := by
  have hpos := d.position
  rw [hpos] at hj
  have hrules : (set.forms.take j ++ form :: set.forms.drop j).map RuleForm.check =
      ((before.take j ++ r :: before.drop j) ++ rule :: after).map .ok := by
    rw [List.map_append, List.map_cons, check_take _ d.check, check_drop _ d.check, hf]
    simp [List.take_append_of_le_length hj, List.drop_append_of_le_length hj]
  have hb : ∀ x ∈ before.take j ++ r :: before.drop j,
      x.Barren set.processors page context := by
    intro x hx
    rcases List.mem_append.1 hx with hx | hx
    · exact d.barren x (List.mem_of_mem_take hx)
    · rcases List.mem_cons.1 hx with rfl | hx
      · exact hr
      · exact d.barren x (List.mem_of_mem_drop hx)
  have hlength : (before.take j ++ r :: before.drop j).length = found.position + 1 := by
    rw [List.length_append, List.length_cons, List.length_take, List.length_drop, hpos]
    omega
  have ht := (Matcher.tryRule_eq_some d.tried).2 (found.position + 1)
  rw [← hlength] at ht
  rw [runRules_with_forms d.build hrules (by simp),
    Matcher.tryFrom_decided after hb ht, hlength]
  rfl

end RuleSet.Decision

namespace RuleTree

/-- Where a rule set finds a value: what comes after the rule that decides makes no difference,
nor, without a scorer, do the elements after the one that decides; and a barren rule put in before
moves the match on by one position. -/
theorem runRules_short_circuit (set : RuleSet) (page : Place) (context : Context) (value : Value)
    (h : (runRules page context set).result = .ok (some value)) :
    ∃ found : Match, found.value = value ∧
      runRules page context set =
        ⟨[.matched set.name found context.url], .ok (some value)⟩ ∧
      (∀ later : List RuleForm, (∀ form ∈ later, form.WellFormed) →
        runRules page context
            { set with forms := set.forms.take (found.position + 1) ++ later } =
          runRules page context set ∧
        runRules page context { set with forms := set.forms ++ later } =
          runRules page context set) ∧
      (set.scorer = none → ∃ form rule passed winner rest,
        set.forms[found.position]? = some form ∧ form.check = .ok rule ∧
        rule.target.pick page = .ok (passed ++ winner :: rest) ∧
        (∀ element ∈ passed, rule.Skips set.processors context element) ∧
        rule.Yields set.processors context winner value ∧
        ∀ (others : List Place) (form' : RuleForm) (rule' : Rule) (later : List RuleForm),
          form'.check = .ok rule' →
          rule'.target.pick page = .ok (passed ++ winner :: others) →
          (∀ element ∈ passed ++ [winner], rule'.extract element = rule.extract element) →
          (∀ form ∈ later, form.WellFormed) →
          runRules page context
              { set with forms := set.forms.take found.position ++ form' :: later } =
            runRules page context set) ∧
      ∀ j ≤ found.position, ∀ form rule, form.check = .ok rule →
        rule.Barren set.processors page context →
        runRules page context
            { set with forms := set.forms.take j ++ form :: set.forms.drop j } =
          ⟨[.matched set.name { found with position := found.position + 1 } context.url],
            .ok (some value)⟩ := by
  obtain ⟨before, rule, after, found, d, rfl⟩ := exists_decision h
  have hself := d.runRules_eq
  refine ⟨found, rfl, hself, ?_, ?_, ?_⟩
  · intro later hl
    rw [hself]
    exact ⟨d.runRules_take hl, d.runRules_append hl⟩
  · intro hs
    obtain ⟨passed, winner, rest, hp, hpassed, hwinner, hranking⟩ :=
      Matcher.exists_winner hs d.tried
    obtain ⟨form, hform, hcheck⟩ := d.form
    refine ⟨form, rule, passed, winner, rest, hform, hcheck, hp, hpassed, hwinner, ?_⟩
    intro others form' rule' later hf hp' he hl
    rw [hself]
    exact d.runRules_winner hs hpassed hwinner hranking hf hp' he hl
  · intro j hj form r hf hr
    exact d.runRules_insert hj hf hr

def plainPage (text : String) : Place := .document (.text text .nil)

def plainTitle : RuleSet where
  name := "title"
  forms := [
    .rule (some (.function fun _ => .ok [])) (some .text),
    .tuple (some (.function fun page => .ok [page, plainPage "A", plainPage "B"])) [some .text],
    .rule (some (.function fun _ => .error .mismatch)) (some .text)]
  processors := [.strip]
  scorer := none

theorem runRules_plainTitle_short_circuit :
    (runRules (plainPage " ") (.ofUrl none) plainTitle).result = .ok (some (.text "A")) ∧
      ∃ found : Match, found.value = .text "A" ∧
        runRules (plainPage " ") (.ofUrl none) { plainTitle with
            forms := plainTitle.forms.take (found.position + 1) ++
              [.rule (some (.css "li*")) (some .text)] } =
          runRules (plainPage " ") (.ofUrl none) plainTitle ∧
        runRules (plainPage " ") (.ofUrl none) { plainTitle with
            forms := plainTitle.forms.take 0 ++
              .rule (some .root) (some .text) :: plainTitle.forms.drop 0 } =
          ⟨[.matched "title" { found with position := found.position + 1 } none],
            .ok (some (.text "A"))⟩ := by
  have h : (runRules (plainPage " ") (.ofUrl none) plainTitle).result = .ok (some (.text "A")) :=
    rfl
  obtain ⟨found, hv, -, hlater, -, hinsert⟩ := runRules_short_circuit plainTitle _ _ _ h
  refine ⟨h, found, hv, (hlater _ ?_).1, ?_⟩
  · intro form hf
    rw [List.mem_singleton.1 hf]
    exact ⟨_, rfl⟩
  · refine hinsert 0 (Nat.zero_le _) _ _ rfl ⟨[plainPage " "], rfl, ?_⟩
    intro element he
    rw [List.mem_singleton.1 he]
    exact ⟨.text " ", rfl, .inl rfl⟩

end RuleTree
end LinkPreview
