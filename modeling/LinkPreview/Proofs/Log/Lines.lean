import LinkPreview.Log.Journal
import LinkPreview.Proofs.Extraction.Leaves

set_option autoImplicit false

namespace LinkPreview

namespace Log

def Entry.line (id : TraceId) (e : Entry) : Line := ⟨e.severity, e.event, id, e.fields⟩

namespace Journal

def printEach (j : Journal) (entries : List Entry) : Journal := entries.foldl print j

theorem printAll_eq_printEach (j : Journal) (events : List Event) :
    j.printAll events = j.printEach (events.map Event.entry) := List.foldl_map.symm

theorem printEach_append (j : Journal) (entries more : List Entry) :
    j.printEach (entries ++ more) = (j.printEach entries).printEach more := List.foldl_append

theorem print_eq {j : Journal} {id : TraceId} (h : j.current = some id) (e : Entry) :
    j.print e = { j with lines := j.lines ++ if j.prints e.severity then [e.line id] else [] } := by
  have htrace : j.trace = (id, j) := by simp [trace, h]
  rw [print, htrace]
  cases j.prints e.severity with
  | true => rfl
  | false => simp

theorem printEach_eq {j : Journal} {id : TraceId} (h : j.current = some id)
    (entries : List Entry) :
    j.printEach entries = { j with
      lines := j.lines ++ (entries.filter fun e => j.prints e.severity).map (·.line id) } := by
  induction entries generalizing j with
  | nil => simp [printEach]
  | cons e more ih =>
    have hstep : j.printEach (e :: more) = (j.print e).printEach more := rfl
    rw [hstep, ih (by rw [print_eq h, h]), print_eq h, List.filter_cons]
    cases he : j.prints e.severity with
    | true => simp [prints]
    | false => simp [prints]

end Journal

def told (entries : List Entry) : List Entry := entries.filter (·.severity != .debug)

@[simp] theorem told_append (entries more : List Entry) :
    told (entries ++ more) = told entries ++ told more := List.filter_append ..

theorem told_eq_nil {entries : List Entry} (h : ∀ e ∈ entries, e.severity = .debug) :
    told entries = [] := by
  refine List.filter_eq_nil_iff.2 fun e he => ?_
  simp [h e he]

theorem told_eq_self {entries : List Entry} (h : ∀ e ∈ entries, e.severity ≠ .debug) :
    told entries = entries := by
  refine List.filter_eq_self.2 fun e he => ?_
  simp [h e he]

end Log

open Log

theorem Traced.mem_events_bind {α β : Type} {first : Traced α} {next : α → Traced β} {e : Event}
    (h : e ∈ (first >>= next).events) :
    e ∈ first.events ∨ ∃ a, first.result = .ok a ∧ e ∈ (next a).events := by
  cases hr : first.result with
  | error fault =>
    rw [bind_of_error next hr] at h
    exact .inl h
  | ok a =>
    rw [bind_of_ok next hr] at h
    exact (List.mem_append.1 h).imp_right fun hn => ⟨a, rfl, hn⟩

theorem Event.entry_severity (e : Event) :
    e.entry.severity = .debug ∨ e.entry.severity = .info := by
  cases e with
  | reading | started | matched => exact .inl rfl
  | urlFilled | providerFilled | extracted => exact .inr rfl

theorem Event.entry_ne_of_debug {e : Event} (h : e.entry.severity = .debug) :
    e.entry.event ≠ "metadata_extracted" := by
  cases e with
  | reading | started =>
    show "action_started" ≠ "metadata_extracted"
    decide
  | matched =>
    show "rule_matched" ≠ "metadata_extracted"
    decide
  | urlFilled | providerFilled | extracted => contradiction

namespace RuleTree
variable {page : Place} {context : Context}

theorem runRules_debug {set : RuleSet} {e : Event} (h : e ∈ (runRules page context set).events) :
    e.entry.severity = .debug := by
  rw [runRules_eq_reported] at h
  cases ho : set.outcome page context with
  | error fault =>
    rw [ho] at h
    exact absurd h List.not_mem_nil
  | ok found =>
    rw [ho] at h
    cases found with
    | none => exact absurd h List.not_mem_nil
    | some found =>
      rw [List.mem_singleton.1 h]
      rfl

theorem resolve_debug {tree : RuleTree} {e : Event}
    (h : e ∈ (tree.resolve page context).events) : e.entry.severity = .debug := by
  rw [resolve_events] at h
  generalize tree.ruleSets = sets at h
  induction sets with
  | nil => exact absurd h List.not_mem_nil
  | cons set sets ih =>
    rw [runEach_cons] at h
    rcases Traced.mem_events_bind h with hset | ⟨value, -, hrest⟩
    · exact runRules_debug hset
    · exact ih hrest

end RuleTree

namespace Extraction

def IsFallback (e : Entry) : Prop := e.event = "fallback_triggered" ∧ e.severity = .info

theorem isFallback_of_urlEvents (url : String) (fields : Fields) :
    ∀ e ∈ (urlEvents url fields).map Event.entry, IsFallback e := by
  unfold urlEvents
  split
  · simp
  · exact List.forall_mem_singleton.2 ⟨rfl, rfl⟩

theorem isFallback_of_provider (url : String) (provider : Option Value) :
    ∀ e ∈ (provider.toList.map (Event.providerFilled url)).map Event.entry, IsFallback e := by
  cases provider with
  | none => simp
  | some v => exact List.forall_mem_singleton.2 ⟨rfl, rfl⟩

theorem told_fallbacks {entries : List Entry} (h : ∀ e ∈ entries, IsFallback e) :
    told entries = entries :=
  told_eq_self fun e he => by simp [(h e he).2]

end Extraction

/-- An extraction tells of the fields that it fills in, and of its end if it gets there. -/
theorem told_extract (page : Place) (context : Context) (tree : RuleTree) :
    ∃ fallbacks, (∀ e ∈ fallbacks, Extraction.IsFallback e) ∧
      told ((extract page context tree).events.map Event.entry) =
        match (extract page context tree).result with
        | .ok found => fallbacks ++ [(Event.extracted context.url (Extraction.sorted found.keys)
            (tree.missing "" found)).entry]
        | .error _ => fallbacks := by
  -- matches are only told for debugging
  have hresolve : told ((tree.resolve page context).events.map Event.entry) = [] := by
    refine told_eq_nil fun e he => ?_
    obtain ⟨event, hevent, rfl⟩ := List.mem_map.1 he
    exact RuleTree.resolve_debug hevent
  have hstart : ∀ entries,
      told ((Event.started context.url tree.keys).entry :: entries) = told entries :=
    fun _ => rfl
  cases hr : (tree.resolve page context).result with
  | error fault =>
    refine ⟨[], List.forall_mem_nil _, ?_⟩
    rw [extract_of_fault hr, List.map_cons, hstart, hresolve]
  | ok base =>
    rw [extract_of_resolve hr, List.map_cons, hstart, List.map_append, told_append, hresolve,
      List.nil_append]
    have hurl := Extraction.isFallback_of_urlEvents (context.url.getD "") base
    cases hd : Extraction.derive context tree (context.url.getD "") base with
    | error fault =>
      refine ⟨_, hurl, ?_⟩
      rw [Extraction.finish_of_fault hd, Extraction.told_fallbacks hurl]
    | ok provider =>
      have hprovider := Extraction.isFallback_of_provider (context.url.getD "") provider
      have hboth := List.forall_mem_append.2 ⟨hurl, hprovider⟩
      refine ⟨_, hboth, ?_⟩
      rw [Extraction.finish_of_derive hd, List.map_append, List.map_append, told_append,
        Extraction.told_fallbacks hboth]
      rfl

end LinkPreview
