import LinkPreview.Log.Run
import LinkPreview.Proofs.Log.Lines

set_option autoImplicit false

namespace LinkPreview.Log

/-- Whatever fields are given, a line shows its own trace ID. -/
theorem Line.shown_traceId (showId : TraceId → Value) (l : Line) :
    Fields.get? (l.shown showId) "trace_id" = some (showId l.traceId) := by
  rw [Line.shown, Fields.get?_put, if_neg (by decide), Fields.get?_put, if_pos rfl]

namespace Step

def severity? : Step → Option Severity
  | .report call => some call.method.severity
  | .free name _ _ => severities.lookup name
  | _ => none

def made? : Step → Option (Except Fault Entry)
  | .report call => some call.entry
  | .free name event fields => some (Entry.named name event fields)
  | _ => none

/-- A call without an argument that it needs, or with one that it passes on by itself. -/
def Malformed : Step → Prop
  | .report call =>
    (∃ key, (key, none) ∈ call.method.parameters ∧ key ∉ call.given.keys) ∨
      ∃ key ∈ "layer" :: reserved, key ∈ call.given.keys
  | .free name _ fields =>
    (severities.lookup name).isSome = true ∧ ∃ key ∈ reserved, key ∈ fields.keys
  | _ => False

end Step

theorem any_has_of_mem {names : List String} {fields : Fields} {key : String} (hn : key ∈ names)
    (hf : key ∈ fields.keys) : names.any fields.has = true :=
  List.any_eq_true.2 ⟨key, hn, Fields.has_eq_true_iff.2 hf⟩

theorem Entry.make_severity {severity : Severity} {event : String} {fields : Fields} {e : Entry}
    (h : make severity event fields = .ok e) : e.severity = severity := by
  unfold make at h
  split at h
  · contradiction
  · rw [← Except.ok.inj h]

theorem Method.fill_of_missing {given : Fields} {parameters : List (String × Option Value)}
    {key : String} (hp : (key, none) ∈ parameters) (hk : key ∉ given.keys) :
    fill given parameters = .error .mismatch := by
  induction parameters with
  | nil => exact absurd hp List.not_mem_nil
  | cons parameter more ih =>
    obtain ⟨first, other⟩ := parameter
    by_cases hm : (key, none) ∈ more
    · unfold fill
      rw [ih hm]
      split <;> rfl
    · obtain ⟨rfl, rfl⟩ := Prod.mk.inj ((List.mem_cons.1 hp).resolve_right hm)
      unfold fill
      rw [Fields.get?_eq_none_iff.2 hk]

theorem Method.fill_eq_error {given : Fields} {parameters : List (String × Option Value)}
    {fault : Fault} (h : fill given parameters = .error fault) : fault = .mismatch := by
  induction parameters with
  | nil => contradiction
  | cons parameter more ih =>
    obtain ⟨key, other⟩ := parameter
    unfold fill at h
    split at h
    case h_1 | h_2 => exact ih (by simpa [bind_eq_error] using h)
    case h_3 => exact (Except.error.inj h).symm

/-- A call with an argument that it passes on by itself fails, whatever else is wrong with it. -/
theorem Call.entry_of_reserved {c : Call} {key : String} (hn : key ∈ "layer" :: reserved)
    (hf : key ∈ c.given.keys) : c.entry = .error .mismatch := by
  have hany := any_has_of_mem hn hf
  cases ha : c.method.arguments c.given with
  | error fault =>
    rw [entry, ha]
    have hfill : Method.fill c.given c.method.parameters = .error fault := by
      simpa [Method.arguments, bind_eq_error] using ha
    rw [Method.fill_eq_error hfill]
    rfl
  | ok arguments =>
    rw [entry, ha, ok_bind, hany]
    rfl

namespace Step

theorem severity_of_made {s : Step} {e : Entry} (h : s.made? = some (.ok e)) :
    s.severity? = some e.severity := by
  cases s with
  | setTrace id => contradiction
  | getTrace => contradiction
  | report call =>
    obtain ⟨arguments, -, hentry⟩ := bind_eq_ok.1 (Option.some.inj h)
    split at hentry
    · contradiction
    · rw [← Except.ok.inj hentry]
      rfl
  | free name event fields =>
    have hnamed := Option.some.inj h
    unfold Entry.named at hnamed
    rw [severity?]
    split at hnamed
    · contradiction
    case h_2 severity hs => rw [hs, Entry.make_severity hnamed]

theorem made_of_malformed {s : Step} (h : s.Malformed) :
    s.made? = some (.error .mismatch) := by
  cases s with
  | setTrace id => exact h.elim
  | getTrace => exact h.elim
  | report call =>
    refine congrArg some ?_
    rcases h with ⟨key, hp, hk⟩ | ⟨key, hn, hf⟩
    · rw [Call.entry, Method.arguments, Method.fill_of_missing hp hk]
      rfl
    · exact Call.entry_of_reserved hn hf
  | free name event fields =>
    obtain ⟨hname, key, hn, hf⟩ := h
    obtain ⟨severity, hs⟩ := Option.isSome_iff_exists.1 hname
    rw [made?, Entry.named, hs]
    refine congrArg some (if_pos (any_has_of_mem hn ?_))
    split
    · have hkeys : Fields.keys (fields ++ [("exc_info", .bool true)]) =
          fields.keys ++ ["exc_info"] := by simp [Fields.keys]
      rw [hkeys]
      exact List.mem_append_left _ hf
    · exact hf

end Step

namespace Journal
variable {j after : Journal} {s : Step} {o : Outcome}

theorem trace_of_current {id : TraceId} (h : j.current = some id) : j.trace = (id, j) := by
  rw [trace, h]

theorem trace_of_none (h : j.current = none) : j.trace = j.generate := by
  rw [trace, h]

/-- Only the trace ID and the count of generated ones change. -/
theorem trace_frame (j : Journal) :
    j.trace.2.threshold = j.threshold ∧ j.trace.2.lines = j.lines := by
  cases h : j.current with
  | none =>
    rw [trace_of_none h]
    exact ⟨rfl, rfl⟩
  | some id =>
    rw [trace_of_current h]
    exact ⟨rfl, rfl⟩

theorem setTrace_frame (j : Journal) (id : Option String) :
    (j.setTrace id).2.threshold = j.threshold ∧ (j.setTrace id).2.lines = j.lines := by
  unfold setTrace
  split
  · exact ⟨rfl, rfl⟩
  · split <;> exact ⟨rfl, rfl⟩

/-- The ways in which a step can go. -/
inductive Moves (j : Journal) : Step → Outcome → Journal → Prop where
  | set (id : Option String) :
    Moves j (.setTrace id) ⟨.ok (some (j.setTrace id).1), []⟩ (j.setTrace id).2
  | get : Moves j .getTrace ⟨.ok (some j.trace.1), []⟩ j.trace.2
  | line {s : Step} {e : Entry} (entry : s.made? = some (.ok e))
    (severe : j.prints e.severity = true) :
    Moves j s ⟨.ok none, [e.line j.trace.1]⟩
      { j.trace.2 with lines := j.lines ++ [e.line j.trace.1] }
  | quiet {s : Step} {e : Entry} (entry : s.made? = some (.ok e))
    (mild : j.prints e.severity = false) : Moves j s ⟨.ok none, []⟩ j
  /-- One of the fields would take the place of the printing method. -/
  | refused {s : Step} {e : Entry} (entry : s.made? = some (.ok e))
    (taken : e.fields.has "method_name" = true) : Moves j s ⟨.error .mismatch, []⟩ j
  | failed {s : Step} {fault : Fault} (entry : s.made? = some (.error fault)) :
    Moves j s ⟨.error fault, []⟩ j

theorem moves_of_made {entry : Except Fault Entry} (hs : s.made? = some entry)
    (ht : j.take s = j.settle (entry >>= j.record)) : j.Moves s (j.step s).1 (j.step s).2 := by
  have hstep : j.step s = (⟨(j.settle (entry >>= j.record)).1,
      (j.settle (entry >>= j.record)).2.lines.drop j.lines.length⟩,
        (j.settle (entry >>= j.record)).2) := by
    rw [← ht]
    rfl
  rw [hstep]
  cases entry with
  | error fault =>
    simpa [settle] using Moves.failed hs
  | ok e =>
    rw [ok_bind, record]
    cases hp : j.prints e.severity with
    | false =>
      have hprint : j.print e = j := by rw [print, hp]; rfl
      simpa [settle, hprint] using Moves.quiet hs hp
    | true =>
      have hprint : j.print e =
          { j.trace.2 with lines := j.lines ++ [e.line j.trace.1] } := by
        rw [print, hp, ← (trace_frame j).2]
        rfl
      cases hm : e.fields.has "method_name" with
      | true => simpa [settle] using Moves.refused hs hm
      | false => simpa [settle, hprint] using Moves.line hs hp

theorem step_moves (j : Journal) (s : Step) : j.Moves s (j.step s).1 (j.step s).2 := by
  cases s with
  | setTrace id =>
    have hstep : j.step (.setTrace id) =
        (⟨.ok (some (j.setTrace id).1), []⟩, (j.setTrace id).2) := by
      simp [step, take, give, (setTrace_frame j id).2]
    rw [hstep]
    exact .set id
  | getTrace =>
    have hstep : j.step .getTrace = (⟨.ok (some j.trace.1), []⟩, j.trace.2) := by
      simp [step, take, give, (trace_frame j).2]
    rw [hstep]
    exact .get
  | report call => exact moves_of_made rfl rfl
  | free name event fields => exact moves_of_made rfl rfl

section
variable (h : j.Moves s o after)
include h

theorem Moves.threshold : after.threshold = j.threshold := by
  cases h with
  | set id => exact (setTrace_frame j id).1
  | get => exact (trace_frame j).1
  | line => exact (trace_frame j).1
  | quiet | refused | failed => rfl

theorem Moves.prints_line {e : Entry} (he : s.made? = some (.ok e))
    (hp : j.prints e.severity = true) (hm : e.fields.has "method_name" = false) :
    ∃ id, o = ⟨.ok none, [e.line id]⟩ := by
  cases h with
  | set | get => contradiction
  | line entry =>
    obtain rfl := Except.ok.inj (Option.some.inj (he.symm.trans entry))
    exact ⟨_, rfl⟩
  | quiet entry mild =>
    obtain rfl := Except.ok.inj (Option.some.inj (he.symm.trans entry))
    rw [hp] at mild
    contradiction
  | refused entry taken =>
    obtain rfl := Except.ok.inj (Option.some.inj (he.symm.trans entry))
    rw [hm] at taken
    contradiction
  | failed entry => exact nomatch Option.some.inj (he.symm.trans entry)

theorem Moves.quiet_of_below {severity : Severity} (hs : s.severity? = some severity)
    (hb : severity.rank < j.threshold) : o.lines = [] ∧ after = j := by
  cases h with
  | set | get => contradiction
  | line entry severe =>
    obtain rfl := Option.some.inj (hs.symm.trans (Step.severity_of_made entry))
    exact absurd (of_decide_eq_true severe) (Nat.not_le.2 hb)
  | quiet | refused | failed => exact ⟨rfl, rfl⟩

theorem Moves.quiet_of_fault {fault : Fault} (hf : o.value = .error fault) :
    o.lines = [] ∧ after = j := by
  cases h with
  | set | get | line | quiet => contradiction
  | refused | failed => exact ⟨rfl, rfl⟩

theorem Moves.fault_of_malformed (hm : s.Malformed) : o.value = .error .mismatch := by
  have hentry := Step.made_of_malformed hm
  cases h with
  | set | get => exact hm.elim
  | line entry | quiet entry | refused entry =>
    exact nomatch Option.some.inj (hentry.symm.trans entry)
  | failed entry =>
    obtain rfl := Except.error.inj (Option.some.inj (hentry.symm.trans entry))
    rfl

end

end Journal
end LinkPreview.Log
