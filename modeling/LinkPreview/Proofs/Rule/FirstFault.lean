import LinkPreview.Proofs.Rule.Report
import LinkPreview.Catalog.Parts

/-! What a run of a matcher calls, in order. The run ends in the fault of the first call that fails,
and in a result if no call fails. -/
set_option autoImplicit false

namespace LinkPreview

namespace Matcher

/-- A call to a part of a rule set, or a comparison of a score with the best so far. -/
inductive Call where
  | pick (target : Target)
  | extract (extractor : Extractor) (element : Place)
  | process (processor : Processor) (value : Value)
  | score (scorer : Scorer) (value : Value) (element : Place)
  | compare (score best : Option Number)

section
variable {ε α : Type}

def faultOf : Except ε α → Option ε
  | .ok _ => none
  | .error fault => some fault

def upTo (p : α → Bool) : List α → List α
  | [] => []
  | a :: more => a :: if p a then [] else upTo p more

def following (result : Except ε α) (next : α → List Call) : List Call :=
  match result with
  | .ok a => next a
  | .error _ => []

end

namespace Call

def fault? (page : Place) (context : Context) : Call → Option Fault
  | .pick target => faultOf (target.pick page)
  | .extract extractor element => faultOf (extractor element)
  | .process processor value => faultOf (processor value context)
  | .score scorer value element => faultOf (scorer value element)
  | .compare s best => faultOf (beats s best)

def firstFault (page : Place) (context : Context) (calls : List Call) : Option Fault :=
  calls.findSome? (·.fault? page context)

variable {page : Place} {context : Context} {call : Call} {calls more : List Call} {α β : Type}
  {first : Except Fault α} {next : α → Except Fault β}

theorem firstFault_append (hfirst : firstFault page context calls = faultOf first)
    (hnext : ∀ a, first = .ok a → firstFault page context more = faultOf (next a)) :
    firstFault page context (calls ++ more) = faultOf (first >>= next) := by
  rw [firstFault, List.findSome?_append, ← firstFault, ← firstFault, hfirst]
  cases first with
  | error fault => rfl
  | ok a => exact hnext a rfl

theorem firstFault_cons {after : α → List Call}
    (hcall : call.fault? page context = faultOf first)
    (hnext : ∀ a, first = .ok a → firstFault page context (after a) = faultOf (next a)) :
    firstFault page context (call :: following first after) = faultOf (first >>= next) := by
  have hone : firstFault page context [call] = faultOf first := by
    rw [firstFault, List.findSome?_singleton, hcall]
  refine firstFault_append hone ?_
  rintro a rfl
  exact hnext a rfl

end Call

section
variable (m : Matcher) (page : Place) (context : Context) (rule : Rule)

def chain : List Processor → Value → List Call
  | [], _ => []
  | processor :: more, value =>
    .process processor value :: following (processor value context) (chain more)

/-- The calls at an element. There are none of processors if the raw value is empty. -/
def callsAt (element : Place) : List Call :=
  .extract rule.extract element :: following (rule.extract element) fun raw =>
    if raw.isEmpty then [] else chain context m.processors raw

def value? (element : Place) : Option Value := (m.valueAt context rule element).toOption.join

def rivals (score : Scorer) (best : Option Number) : List Candidate → List Call
  | [] => []
  | c :: more =>
    .score score c.value c.element :: following (score c.value c.element) fun s =>
      .compare s best :: following (beats s best) fun better =>
        rivals score (if better then s else best) more

/-- The first candidate is scored, and then each of the others is scored and compared. -/
def ranking (score : Scorer) : List Candidate → List Call
  | [] => []
  | first :: more =>
    .score score first.value first.element :: following (score first.value first.element) fun s =>
      rivals score s more

def candidatesAt (elements : List Place) : List Candidate :=
  elements.filterMap fun element => (m.value? context rule element).map (⟨·, element⟩)

/-- The calls for a rule. Without a scorer they end at the element that has a value; with one, the
elements are all gone through before any candidate is scored. -/
def callsOf : List Call :=
  .pick rule.target :: following (rule.target.pick page) fun elements =>
    match m.scorer with
    | none =>
      (upTo (fun element => (m.value? context rule element).isSome) elements).flatMap
        (m.callsAt context rule)
    | some score =>
      elements.flatMap (m.callsAt context rule) ++
        ranking score (m.candidatesAt context rule elements)

def finds : Bool :=
  match rule.target.pick page with
  | .ok elements => elements.any fun element => (m.value? context rule element).isSome
  | .error _ => false

/-- The calls of a run, which end with those for the rule that finds a value. -/
def calls : List Call := (upTo (m.finds page context) m.rules).flatMap (m.callsOf page context)

end

open Call
variable {m : Matcher} {page : Place} {context : Context} {rule : Rule}

theorem firstFault_chain (processors : List Processor) (value : Value) :
    firstFault page context (chain context processors value) =
      faultOf (processAll context processors value) := by
  induction processors generalizing value with
  | nil => rfl
  | cons process more ih => exact firstFault_cons rfl fun v _ => ih v

theorem firstFault_callsAt (element : Place) :
    firstFault page context (m.callsAt context rule element) =
      faultOf (m.valueAt context rule element) := by
  refine firstFault_cons rfl ?_
  intro raw _
  cases raw.isEmpty with
  | true => rfl
  | false =>
    rw [if_neg Bool.false_ne_true, if_neg Bool.false_ne_true, firstFault_chain]
    cases processAll context m.processors raw with
    | error fault => rfl
    | ok value => rw [ok_bind]; split <;> rfl

theorem value?_of_ok {element : Place} {found : Option Value}
    (h : m.valueAt context rule element = .ok found) : m.value? context rule element = found := by
  rw [value?, h]
  cases found <;> rfl

theorem firstFault_upTo (elements : List Place) :
    firstFault page context
        ((upTo (fun element => (m.value? context rule element).isSome) elements).flatMap
          (m.callsAt context rule)) =
      faultOf (m.firstValue context rule elements) := by
  induction elements with
  | nil => rfl
  | cons element more ih =>
    rw [upTo, List.flatMap_cons, firstValue]
    refine firstFault_append (firstFault_callsAt element) ?_
    intro found hf
    -- the elements after one that has a value are in neither
    rw [value?_of_ok hf]
    cases found with
    | some value => rfl
    | none => exact ih

theorem firstFault_flatMap (elements : List Place) :
    firstFault page context (elements.flatMap (m.callsAt context rule)) =
      faultOf (m.candidates context rule elements) := by
  induction elements with
  | nil => rfl
  | cons element more ih =>
    rw [List.flatMap_cons, candidates]
    refine firstFault_append (firstFault_callsAt element) ?_
    intro found _
    cases found with
    | none => exact ih
    | some value =>
      rw [ih]
      cases m.candidates context rule more <;> rfl

theorem candidatesAt_of_ok {elements : List Place} {cs : List Candidate}
    (h : m.candidates context rule elements = .ok cs) :
    m.candidatesAt context rule elements = cs := by
  induction elements generalizing cs with
  | nil => exact Except.ok.inj h
  | cons element more ih =>
    obtain ⟨found, hf, h⟩ := bind_eq_ok.1 h
    rw [candidatesAt, List.filterMap_cons, value?_of_ok hf]
    cases found with
    | none => exact ih h
    | some value =>
      obtain ⟨others, ho, h⟩ := bind_eq_ok.1 h
      rw [pure_eq_ok, Except.ok.injEq] at h
      rw [← h, ← ih ho]
      rfl

theorem firstFault_rivals (score : Scorer) (v : Value) (best : Option Number)
    (more : List Candidate) :
    firstFault page context (rivals score best more) =
      faultOf (Candidate.challenge score v best more) := by
  induction more generalizing v best with
  | nil => rfl
  | cons c more ih =>
    refine firstFault_cons rfl fun s _ => firstFault_cons rfl fun better _ => ?_
    cases better with
    | true => exact ih c.value s
    | false => exact ih v best

theorem firstFault_ranking (score : Scorer) (first : Candidate) (more : List Candidate) :
    firstFault page context (ranking score (first :: more)) =
      faultOf (Candidate.best score first more) :=
  firstFault_cons rfl fun s _ => firstFault_rivals score first.value s more

/-- A rule fails with the first fault of its calls, wherever it stands. -/
theorem firstFault_callsOf (position : Nat) :
    firstFault page context (m.callsOf page context rule) =
      faultOf (m.tryRule context page position rule) := by
  refine firstFault_cons rfl ?_
  intro elements _
  cases m.scorer with
  | none =>
    rw [firstFault_upTo]
    cases m.firstValue context rule elements <;> rfl
  | some score =>
    refine firstFault_append (firstFault_flatMap elements) ?_
    intro cs hc
    rw [candidatesAt_of_ok hc]
    cases cs with
    | nil => rfl
    | cons first more =>
      rw [firstFault_ranking]
      dsimp only
      cases Candidate.best score first more <;> rfl

theorem finds_of_tryRule {position : Nat} {found : Option Match}
    (h : m.tryRule context page position rule = .ok found) :
    m.finds page context rule = found.isSome := by
  cases found with
  | none =>
    obtain ⟨elements, hp, hnone⟩ := barren_iff.1 (tryRule_eq_none_iff.1 h)
    rw [finds, hp, Option.isSome_none, List.any_eq_false]
    intro element he
    rw [value?_of_ok (hnone element he)]
    exact Bool.false_ne_true
  | some found =>
    obtain ⟨elements, hp, element, he, hv⟩ := exists_valueAt_of_tryRule h
    rw [finds, hp, Option.isSome_some, List.any_eq_true]
    refine ⟨element, he, ?_⟩
    rw [value?_of_ok hv]
    rfl

theorem firstFault_tryFrom (position : Nat) (rules : List Rule) :
    firstFault page context
        ((upTo (m.finds page context) rules).flatMap (m.callsOf page context)) =
      faultOf (m.tryFrom context page position rules) := by
  induction rules generalizing position with
  | nil => rfl
  | cons rule more ih =>
    rw [upTo, List.flatMap_cons, tryFrom]
    refine firstFault_append (firstFault_callsOf position) ?_
    intro found hf
    rw [finds_of_tryRule hf]
    cases found with
    | some found => rfl
    | none => exact ih (position + 1)

/-- A run fails with the first fault of its calls. -/
theorem firstFault_calls :
    firstFault page context (m.calls page context) = faultOf (m.run page context) :=
  firstFault_tryFrom 0 m.rules

theorem exists_run_of_no_fault
    (h : ∀ call ∈ m.calls page context, call.fault? page context = none) :
    ∃ found, m.run page context = .ok found := by
  have hnone : firstFault page context (m.calls page context) = faultOf (m.run page context) :=
    firstFault_calls
  rw [firstFault, List.findSome?_eq_none_iff.2 h] at hnone
  cases hr : m.run page context with
  | error fault => simp [hr, faultOf] at hnone
  | ok found => exact ⟨found, rfl⟩

theorem run_of_first_fault {before after : List Call} {call : Call} {fault : Fault}
    (hs : m.calls page context = before ++ call :: after)
    (hb : ∀ c ∈ before, c.fault? page context = none)
    (hf : call.fault? page context = some fault) : m.run page context = .error fault := by
  have hfault : firstFault page context (m.calls page context) = faultOf (m.run page context) :=
    firstFault_calls
  rw [firstFault, List.findSome?_eq_some_iff.2 ⟨before, call, after, hs, hf, hb⟩] at hfault
  cases hr : m.run page context with
  | ok found => simp [hr, faultOf] at hfault
  | error other =>
    rw [hr, faultOf, Option.some.injEq] at hfault
    rw [hfault]

end Matcher

namespace Rule

def fills (rule : Rule) (element : Place) : Bool :=
  match rule.extract element with
  | .ok raw => !raw.isEmpty
  | .error _ => true

/-- The rule that leaves out the elements at which the raw value is empty. -/
def filled (rule : Rule) : Rule where
  target := .function fun page => return (← rule.target.pick page).filter rule.fills
  extract := rule.extract

def form (rule : Rule) : RuleForm := .rule (some rule.target) (some rule.extract)

end Rule

namespace Matcher
variable {m : Matcher} {page : Place} {context : Context} {rule : Rule}

theorem valueAt_of_not_fills {element : Place} (h : ¬rule.fills element = true) :
    m.valueAt context rule element = .ok none := by
  unfold Rule.fills at h
  cases hr : rule.extract element with
  | error fault => simp [hr] at h
  | ok raw =>
    rw [hr, Bool.not_eq_true, Bool.not_eq_false'] at h
    rw [valueAt, hr, ok_bind, if_pos h]
    rfl

theorem firstValue_filled (elements : List Place) :
    m.firstValue context rule.filled (elements.filter rule.fills) =
      m.firstValue context rule elements := by
  induction elements with
  | nil => rfl
  | cons element more ih =>
    by_cases hf : rule.fills element = true
    · rw [List.filter_cons_of_pos hf, firstValue, firstValue, ih]
      rfl
    · rw [List.filter_cons_of_neg hf, ih, firstValue, valueAt_of_not_fills hf, ok_bind]

theorem candidates_filled (elements : List Place) :
    m.candidates context rule.filled (elements.filter rule.fills) =
      m.candidates context rule elements := by
  induction elements with
  | nil => rfl
  | cons element more ih =>
    by_cases hf : rule.fills element = true
    · rw [List.filter_cons_of_pos hf, candidates, candidates, ih]
      rfl
    · rw [List.filter_cons_of_neg hf, ih, candidates, valueAt_of_not_fills hf, ok_bind]

theorem tryRule_filled (position : Nat) :
    m.tryRule context page position rule.filled = m.tryRule context page position rule := by
  rw [tryRule, tryRule, Rule.filled, Target.pick]
  cases rule.target.pick page with
  | error fault => rfl
  | ok elements =>
    rw [ok_bind, ok_bind, pure_eq_ok, ok_bind, ← Rule.filled, firstValue_filled, candidates_filled]

theorem tryFrom_filled (position : Nat) (rules : List Rule) :
    m.tryFrom context page position (rules.map Rule.filled) =
      m.tryFrom context page position rules := by
  induction rules generalizing position with
  | nil => rfl
  | cons rule more ih => rw [List.map_cons, tryFrom, tryFrom, tryRule_filled, ih]

theorem valueAt_of_first {first other : Processor} {more : List Processor}
    (hm : m.processors = first :: more)
    (h : ∀ v : Value, v.isEmpty = false → other v context = first v context) (rule : Rule)
    (element : Place) :
    { m with processors := other :: more }.valueAt context rule element =
      m.valueAt context rule element := by
  rw [valueAt, valueAt, hm]
  refine bind_congr fun raw => ?_
  cases hr : raw.isEmpty with
  | true => rfl
  | false => rw [processAll, processAll, h raw hr]

end Matcher

namespace RuleTree
variable {set : RuleSet} {m : Matcher} {page : Place} {context : Context}

theorem runRules_with_first {first other : Processor} {more : List Processor}
    (hb : set.build = .ok m) (hs : set.processors = first :: more)
    (h : ∀ v : Value, v.isEmpty = false → other v context = first v context) :
    runRules page context { set with processors := other :: more } =
      runRules page context set := by
  obtain ⟨rules, hne, hc, rfl⟩ := RuleSet.build_eq_ok_iff.1 hb
  have hother : ({ set with processors := other :: more } : RuleSet).build =
      .ok { set.matcher rules with processors := other :: more } :=
    RuleSet.build_eq_ok_iff.2 ⟨rules, hne, hc, rfl⟩
  rw [runRules_of_build hother, runRules_of_build hb]
  refine congrArg _ (Matcher.tryFrom_of_values ?_ ?_ 0 rules)
  · rfl
  · exact Matcher.valueAt_of_first hs h

theorem runRules_filled (hb : set.build = .ok m) :
    runRules page context { set with forms := m.rules.map fun rule => rule.filled.form } =
      runRules page context set := by
  obtain ⟨rules, hne, hc, rfl⟩ := RuleSet.build_eq_ok_iff.1 hb
  have hforms : (rules.map fun rule => rule.filled.form).map RuleForm.check =
      (rules.map Rule.filled).map .ok := by
    rw [List.map_map, List.map_map]
    rfl
  rw [RuleSet.matcher, runRules_with_forms hb hforms (by simpa using hne), Matcher.tryFrom_filled,
    runRules_of_build hb, Matcher.run]
  rfl

/-- A run ends in the fault of the first of its calls that fails, and without a match. If none of
them fails, there is a result. The first processor is not given an empty value, and elements with
an empty raw value play no part. -/
theorem runRules_first_fault (hb : set.build = .ok m) :
    (∀ before call after fault, m.calls page context = before ++ call :: after →
        (∀ c ∈ before, c.fault? page context = none) → call.fault? page context = some fault →
        runRules page context set = ⟨[], .error fault⟩) ∧
      ((∀ call ∈ m.calls page context, call.fault? page context = none) →
        ∃ value, (runRules page context set).result = .ok value) ∧
      (∀ first more, set.processors = first :: more → ∀ other : Processor,
        (∀ v : Value, v.isEmpty = false → other v context = first v context) →
        runRules page context { set with processors := other :: more } =
          runRules page context set) ∧
      runRules page context { set with forms := m.rules.map fun rule => rule.filled.form } =
        runRules page context set := by
  refine ⟨?_, ?_, ?_, runRules_filled hb⟩
  · intro before call after fault hs hbefore hf
    rw [runRules_of_build hb, Matcher.run_of_first_fault hs hbefore hf]
    rfl
  · intro h
    obtain ⟨found, hr⟩ := Matcher.exists_run_of_no_fault h
    exact ⟨found.map (·.value), runRules_result_eq_ok_iff.2 ⟨m, found, hb, hr, rfl⟩⟩
  · intro first more hs other h
    exact runRules_with_first hb hs h

def letterPage : Place := .document (.text "A" .nil)

def emptyPage : Place := .document .nil

def brittleTitle : RuleSet where
  name := "title"
  forms := [.rule (some (.function fun page => .ok [page, emptyPage])) (some fun element =>
    if element.text = "" then .error (.raised .value "no text") else .ok (.text element.text))]
  processors := [.strip]
  scorer := some fun _ _ => .error .mismatch

/-- The fault at the second element comes before that of the score of the first. -/
theorem runRules_brittleTitle_first_fault :
    brittleTitle.build.isOk = true ∧
      runRules letterPage (.ofUrl none) brittleTitle =
        ⟨[], .error (.raised .value "no text")⟩ ∧
      runRules letterPage (.ofUrl none) { brittleTitle with
          processors := [fun value context =>
            if value.isEmpty then .error .mismatch else Processor.strip value context] } =
        ⟨[], .error (.raised .value "no text")⟩ := by
  have hok : brittleTitle.build.isOk = true := rfl
  obtain ⟨m, hm⟩ := exists_of_isOk hok
  obtain rfl := Except.ok.inj hm
  obtain ⟨hfault, -, hfirst, -⟩ := @runRules_first_fault brittleTitle _ letterPage (.ofUrl none) hm
  have hrun : runRules letterPage (.ofUrl none) brittleTitle =
      ⟨[], .error (.raised .value "no text")⟩ := by
    refine hfault [.pick _, .extract _ letterPage, .process .strip (.text "A")]
      (.extract _ emptyPage) [.score _ (.text "A") letterPage] _ rfl ?_ rfl
    rw [List.forall_mem_cons, List.forall_mem_cons, List.forall_mem_singleton]
    exact ⟨rfl, rfl, rfl⟩
  refine ⟨hok, hrun, ?_⟩
  rw [hfirst .strip [] rfl _ ?_, hrun]
  intro v hv
  rw [hv]
  rfl

end RuleTree
end LinkPreview
