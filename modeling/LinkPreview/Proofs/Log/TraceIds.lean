import LinkPreview.Proofs.Log.Steps
import Mathlib.Data.List.Induction

/-! The trace ID over a run. It is the one that was set last; before any is set, it is generated
when it is first asked for, and then kept. -/
set_option autoImplicit false

namespace LinkPreview.Log

/-- A trace ID that a step gives back, or shows in the first line that it prints. -/
def Outcome.traceId? (o : Outcome) : Option TraceId :=
  match o.value with
  | .ok (some id) => some id
  | _ => o.lines.head?.map (·.traceId)

namespace Step

def sets : Step → Bool
  | .setTrace _ => true
  | _ => false

def renews : Step → Bool
  | .setTrace id => id.all (·.isEmpty)
  | _ => false

theorem sets_of_renews {s : Step} (h : s.renews = true) : s.sets = true := by
  cases s with
  | setTrace id => rfl
  | getTrace | report | free => contradiction

theorem renews_of_unset {s : Step} (h : s.sets = false) : s.renews = false := by
  cases s with
  | setTrace id => contradiction
  | getTrace | report | free => rfl

theorem sets_of_made {s : Step} {entry : Except Fault Entry} (h : s.made? = some entry) :
    s.sets = false := by
  cases s with
  | setTrace id => contradiction
  | getTrace | report | free => rfl

end Step

/-- Steps that were taken, with what each did. -/
abbrev History := List (Step × Outcome)

namespace History

/-- The ID that the latest step to set one gave back; if there is none, the first that was
shown. -/
def current (past : History) : Option TraceId :=
  ((past.reverse.find? (·.1.sets)).bind (·.2.traceId?)).or (past.findSome? (·.2.traceId?))

/-- Whether a new ID is generated: one is asked for by a step that sets it, or needed for the first
time. -/
def generates (past : History) (s : Step) (o : Outcome) : Bool :=
  s.renews || (!s.sets && past.current.isNone && o.traceId?.isSome)

theorem current_concat_of_sets {past : History} {s : Step} {o : Outcome} (hs : s.sets = true)
    {id : TraceId} (ho : o.traceId? = some id) : current (past ++ [(s, o)]) = some id := by
  simp [current, hs, ho]

theorem current_concat {past : History} {s : Step} {o : Outcome} (hs : s.sets = false) :
    current (past ++ [(s, o)]) = past.current.or o.traceId? := by
  have hfind : (past ++ [(s, o)]).reverse.find? (·.1.sets) = past.reverse.find? (·.1.sets) := by
    simp [hs]
  have hshown : [(s, o)].findSome? (·.2.traceId?) = o.traceId? := by
    cases h : o.traceId? <;> simp [h]
  rw [current, hfind, List.findSome?_append, hshown, current, Option.or_assoc]

theorem exists_of_current {past : History} {id : TraceId} (h : past.current = some id) :
    ∃ x ∈ past, x.2.traceId? = some id := by
  rcases Option.or_eq_some_iff.1 h with hset | ⟨-, hshown⟩
  · obtain ⟨x, hx, hid⟩ := Option.bind_eq_some_iff.1 hset
    exact ⟨x, List.mem_reverse.1 (List.mem_of_find?_eq_some hx), hid⟩
  · exact List.exists_of_findSome?_eq_some hshown

end History

namespace Journal

def after (j : Journal) (steps : List Step) : Journal := steps.foldl (fun j s => (j.step s).2) j

def history (j : Journal) (steps : List Step) : History := steps.zip (j.run steps)

theorem run_append (j : Journal) (steps more : List Step) :
    j.run (steps ++ more) = j.run steps ++ (j.after steps).run more := by
  induction steps generalizing j with
  | nil => rfl
  | cons s steps ih => exact congrArg ((j.step s).1 :: ·) (ih (j.step s).2)

theorem length_run (j : Journal) (steps : List Step) : (j.run steps).length = steps.length := by
  induction steps generalizing j with
  | nil => rfl
  | cons s steps ih => exact congrArg (· + 1) (ih (j.step s).2)

theorem after_concat (j : Journal) (steps : List Step) (s : Step) :
    j.after (steps ++ [s]) = ((j.after steps).step s).2 := by
  rw [after, List.foldl_append]
  rfl

theorem history_concat (j : Journal) (steps : List Step) (s : Step) :
    j.history (steps ++ [s]) = j.history steps ++ [(s, ((j.after steps).step s).1)] := by
  rw [history, run_append, List.zip_append (length_run j steps).symm]
  rfl

theorem setTrace_eq (j : Journal) (id : Option String) :
    (j.setTrace id).1 =
      if (Step.setTrace id).renews then .generated (j.setTrace id).2.generated
      else .given (id.getD "") := by
  cases id with
  | none => rfl
  | some id =>
    rw [setTrace, Step.renews, Option.all_some]
    split <;> rfl

/-- Which ID a step shows, and where it comes from. -/
inductive Shows (j after : Journal) (s : Step) : Option TraceId → Prop where
  | none (unset : s.sets = false) (same : after = j) : Shows j after s none
  | kept {id : TraceId} (unset : s.sets = false) (before : j.current = some id)
    (now : after.current = some id) (count : after.generated = j.generated) :
    Shows j after s (some id)
  | generated (asked : s.renews = true ∨ s.sets = false ∧ j.current = .none)
    (now : after.current = some (.generated (j.generated + 1)))
    (count : after.generated = j.generated + 1) :
    Shows j after s (some (.generated (j.generated + 1)))
  | given {id : String} (set : s = .setTrace (some id)) (proper : id.isEmpty = false)
    (now : after.current = some (.given id)) (count : after.generated = j.generated) :
    Shows j after s (some (.given id))

section
variable {j after : Journal} {s : Step} {o : Outcome}

theorem shows_trace (hs : s.sets = false) (hc : after.current = j.trace.2.current)
    (hg : after.generated = j.trace.2.generated) : Shows j after s (some j.trace.1) := by
  cases h : j.current with
  | none =>
    rw [trace_of_none h] at hc hg ⊢
    exact .generated (.inr ⟨hs, h⟩) hc hg
  | some id =>
    rw [trace_of_current h] at hc hg ⊢
    exact .kept hs h (hc.trans h) hg

theorem shows_setTrace (j : Journal) (id : Option String) :
    Shows j (j.setTrace id).2 (.setTrace id) (some (j.setTrace id).1) := by
  cases id with
  | none => exact .generated (.inl rfl) rfl rfl
  | some id =>
    cases he : id.isEmpty with
    | true =>
      have hset : j.setTrace (some id) = j.generate := by rw [setTrace, he, if_pos rfl]
      rw [hset]
      exact .generated (.inl he) rfl rfl
    | false =>
      have hset : j.setTrace (some id) = (.given id, { j with current := some (.given id) }) := by
        rw [setTrace, he, if_neg Bool.false_ne_true]
      rw [hset]
      exact .given rfl he rfl rfl

theorem Moves.shows (h : j.Moves s o after) : Shows j after s o.traceId? := by
  cases h with
  | set id => exact shows_setTrace j id
  | get => exact shows_trace rfl rfl rfl
  | line entry => exact shows_trace (Step.sets_of_made entry) rfl rfl
  | quiet entry => exact .none (Step.sets_of_made entry) rfl
  | refused entry => exact .none (Step.sets_of_made entry) rfl
  | failed entry => exact .none (Step.sets_of_made entry) rfl

theorem Shows.current_eq {id : TraceId} (h : Shows j after s (some id)) :
    after.current = some id := by
  cases h with
  | kept _ _ now | generated _ now | given _ _ now => exact now

theorem Moves.traceId_of_mem (h : j.Moves s o after) :
    ∀ l ∈ o.lines, o.traceId? = some l.traceId := by
  cases h with
  | line => exact List.forall_mem_singleton.2 rfl
  | set | get | quiet | refused | failed => exact List.forall_mem_nil _

end

/-- A log after a history that started without an ID. -/
structure Keeps (threshold : Nat) (past : History) (j : Journal) : Prop where
  threshold : j.threshold = threshold
  current : j.current = past.current
  /-- Generated IDs are numbered in order. -/
  numbered : ∀ x ∈ past, ∀ n, x.2.traceId? = some (.generated n) → n ≤ j.generated

namespace Keeps
variable {threshold : Nat} {past : History} {j after : Journal} {s : Step} {o : Outcome}

theorem start (threshold : Nat) : Keeps threshold [] (.start threshold) :=
  ⟨rfl, rfl, fun _ hx => absurd hx List.not_mem_nil⟩

section
variable (hk : Keeps threshold past j) (h : j.Moves s o after)
include hk h

theorem current_now : after.current = History.current (past ++ [(s, o)]) := by
  have hshows := h.shows
  generalize ho : o.traceId? = shown at hshows
  cases hshows with
  | none unset same => rw [same, History.current_concat unset, ho, Option.or_none, hk.current]
  | kept unset before now =>
    rw [History.current_concat unset, ← hk.current, before, now, Option.some_or]
  | generated asked now =>
    -- either the step sets a new ID, or no ID has been shown before it
    rcases asked with hr | ⟨hs, hnone⟩
    · rw [History.current_concat_of_sets (Step.sets_of_renews hr) ho, now]
    · rw [History.current_concat hs, ← hk.current, hnone, ho, Option.none_or, now]
  | given set proper now => rw [History.current_concat_of_sets (by rw [set]; rfl) ho, now]

theorem generated_now :
    past.generates s o = true ∧ after.generated = j.generated + 1 ∧
        after.current = some (.generated after.generated) ∨
      past.generates s o = false ∧ after.generated = j.generated ∧
        ∀ id, o.traceId? = some id → j.current = some id ∨ ∃ given, id = .given given := by
  have hshows := h.shows
  unfold History.generates
  generalize ho : o.traceId? = shown at hshows
  rw [← hk.current]
  cases hshows with
  | none unset same =>
    exact .inr ⟨by simp [unset, Step.renews_of_unset unset], by rw [same], by simp⟩
  | kept unset before now count =>
    refine .inr ⟨by simp [unset, Step.renews_of_unset unset, before], count, ?_⟩
    rintro id ⟨⟩
    exact .inl before
  | generated asked now count =>
    refine .inl ⟨?_, count, by rw [now, count]⟩
    rcases asked with hr | ⟨hs, hnone⟩
    · simp [hr]
    · simp [hs, hnone]
  | given set proper now count =>
    refine .inr ⟨by simp [set, Step.renews, Step.sets, proper], count, ?_⟩
    rintro id ⟨⟩
    exact .inr ⟨_, rfl⟩

theorem numbered_now {n : Nat} (ho : o.traceId? = some (.generated n)) : n ≤ after.generated := by
  have hshows := h.shows
  rw [ho] at hshows
  rcases hk.generated_now h with ⟨-, -, hnow⟩ | ⟨-, hcount, hold⟩
  · obtain ⟨rfl⟩ : n = after.generated := by simpa [hshows.current_eq] using hnow
    exact Nat.le_refl _
  · rcases hold _ ho with hcurrent | ⟨given, hgiven⟩
    · rw [hk.current] at hcurrent
      obtain ⟨x, hx, hid⟩ := History.exists_of_current hcurrent
      rw [hcount]
      exact hk.numbered x hx n hid
    · contradiction

/-- One step keeps the log and the history in line. -/
theorem step : Keeps threshold (past ++ [(s, o)]) after := by
  refine ⟨h.threshold.trans hk.threshold, hk.current_now h, ?_⟩
  intro x hx n hn
  rcases List.mem_append.1 hx with hx | hx
  · have hle := hk.numbered x hx n hn
    rcases hk.generated_now h with ⟨-, hcount, -⟩ | ⟨-, hcount, -⟩ <;> omega
  · obtain rfl := List.mem_singleton.1 hx
    exact hk.numbered_now h hn

end

theorem run (threshold : Nat) (steps : List Step) :
    Keeps threshold ((Journal.start threshold).history steps)
      ((Journal.start threshold).after steps) := by
  -- a history grows at its end, so the last step is taken off
  induction steps using List.reverseRecOn with
  | nil => exact start threshold
  | append_singleton steps s ih =>
    rw [history_concat, after_concat]
    exact ih.step (step_moves _ s)

end Keeps

end Journal

/-- What a step means for the trace ID, after a history and before the next step. -/
structure Tracked (threshold : Nat) (past : History) (j : Journal) (s : Step) (o : Outcome)
    (after : Journal) : Prop where
  before : j.current = past.current
  now : after.current = History.current (past ++ [(s, o)])
  /-- All lines show the current ID, even if the caller gives another one. -/
  line : ∀ l ∈ o.lines, ∃ id, History.current (past ++ [(s, o)]) = some id ∧
    ∀ showId, Fields.get? (l.shown showId) "trace_id" = some (showId id)
  get : s = .getTrace → ∃ id, History.current (past ++ [(s, o)]) = some id ∧
    o.value = .ok (some id)
  set : ∀ given, s = .setTrace given → ∃ id, History.current (past ++ [(s, o)]) = some id ∧
    o.value = .ok (some id) ∧
    id = if s.renews then .generated after.generated else .given (given.getD "")
  kept : s.sets = false → ∀ id, past.current = some id →
    History.current (past ++ [(s, o)]) = some id
  generated : after.generated = j.generated + if past.generates s o then 1 else 0
  /-- A new ID has not been shown before. -/
  fresh : past.generates s o = true →
    History.current (past ++ [(s, o)]) = some (.generated after.generated) ∧
      ∀ x ∈ past, x.2.traceId? ≠ some (.generated after.generated)
  /-- A call at the level or above prints a line, unless one of its fields stands in the way. -/
  printed : ∀ e, s.made? = some (.ok e) → threshold ≤ e.severity.rank →
    e.fields.has "method_name" = false → ∃ id, o = ⟨.ok none, [e.line id]⟩
  below : ∀ severity, s.severity? = some severity → severity.rank < threshold →
    o.lines = [] ∧ after = j
  fails : ∀ fault, o.value = .error fault → o.lines = [] ∧ after = j
  malformed : s.Malformed → o.value = .error .mismatch

namespace Journal.Keeps
variable {threshold : Nat} {past : History} {j after : Journal} {s : Step} {o : Outcome}

theorem shown_now (hk : Keeps threshold past j) (h : j.Moves s o after) {id : TraceId}
    (ho : o.traceId? = some id) : History.current (past ++ [(s, o)]) = some id := by
  have hshows := h.shows
  rw [ho] at hshows
  rw [← hk.current_now h, hshows.current_eq]

theorem tracked (hk : Keeps threshold past j) (h : j.Moves s o after) :
    Tracked threshold past j s o after := by
  constructor
  case before => exact hk.current
  case now => exact hk.current_now h
  case line =>
    intro l hl
    exact ⟨l.traceId, hk.shown_now h (h.traceId_of_mem l hl),
      fun showId => l.shown_traceId showId⟩
  case get =>
    rintro rfl
    cases h with
    | get => exact ⟨_, hk.shown_now .get rfl, rfl⟩
    | line entry | quiet entry | refused entry | failed entry => contradiction
  case set =>
    rintro given rfl
    cases h with
    | set => exact ⟨_, hk.shown_now (.set given) rfl, rfl, setTrace_eq j given⟩
    | line entry | quiet entry | refused entry | failed entry => contradiction
  case kept =>
    intro hs id hid
    rw [History.current_concat hs, hid, Option.some_or]
  case generated =>
    rcases hk.generated_now h with ⟨hg, hcount, -⟩ | ⟨hg, hcount, -⟩ <;> simp [hg, hcount]
  case fresh =>
    intro hg
    rcases hk.generated_now h with ⟨-, hcount, hnow⟩ | ⟨hno, -⟩
    · refine ⟨by rw [← hk.current_now h, hnow], ?_⟩
      intro x hx hid
      have hle := hk.numbered x hx _ hid
      omega
    · rw [hg] at hno
      contradiction
  case printed =>
    intro e he hle hm
    refine h.prints_line he (decide_eq_true ?_) hm
    rw [hk.threshold]
    exact hle
  case below =>
    intro severity hs hb
    exact h.quiet_of_below hs (hk.threshold.symm ▸ hb)
  case fails => exact fun fault hf => h.quiet_of_fault hf
  case malformed => exact h.fault_of_malformed

end Journal.Keeps

/-- Each step of a run is accounted for by the steps before it, whatever comes after. -/
theorem Journal.run_tracked (threshold : Nat) (before : List Step) (s : Step) (more : List Step) :
    ∃ o, (start threshold).run (before ++ s :: more) = (start threshold).run before ++
        o :: ((start threshold).after (before ++ [s])).run more ∧
      Tracked threshold ((start threshold).history before) ((start threshold).after before) s o
        ((start threshold).after (before ++ [s])) := by
  refine ⟨(((start threshold).after before).step s).1, ?_, ?_⟩
  · rw [run_append, after_concat]
    rfl
  · rw [after_concat]
    exact (Keeps.run threshold before).tracked (step_moves _ s)

example :
    ((Journal.start 20).run [.free "debug" "mild" [],
      .free "info" "told" [("trace_id", .text "own")], .setTrace (some "own"), .getTrace]).map
        (·.traceId?) = [none, some (.generated 1), some (.given "own"), some (.given "own")] := by
  decide

end LinkPreview.Log
