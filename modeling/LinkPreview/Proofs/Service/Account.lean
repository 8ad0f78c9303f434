import LinkPreview.Proofs.Service.Answer

/-! Each request for metadata is answered in one of five ways, which the log tells: a line for the
request, lines for what is filled in, and a line for the end of the extraction or its fault. -/
set_option autoImplicit false

namespace LinkPreview.Service
open Log

/-- After a request, its entries stand at the end of the log, as far as the level of the log lets
them through. -/
def Adds (j : Journal) (entries : List Entry) (after : Journal) : Prop :=
  after.lines = j.lines ++
    (entries.filter fun e => j.prints e.severity).map (·.line (nextId j))

theorem logged_adds (j : Journal) (entries : List Entry) : Adds j entries (logged j entries) := by
  have hcurrent : j.generate.2.current = some (nextId j) := rfl
  rw [Adds, logged, Journal.printEach_eq hcurrent]
  rfl

def ending : String := "metadata_extracted"

structure Opens (r : MetadataRequest) (e : Entry) : Prop where
  severity : e.severity = .info
  event : e.event = "metadata_request"
  fields : e.fields = [("url", .ofText? r.url), ("html_length", .number (.whole r.html.length)),
    ("fields", (r.fields.map Value.texts).getD .null)]

/-- The answer to a request whose extraction does `done`, and the entries beside it. -/
structure Accounted (limit : Int) (r : MetadataRequest) (done : Traced Fields) (id : Value)
    (response : Response) (entries : List Entry) : Prop where
  first : ∃ opening more, entries = opening :: more ∧ Opens r opening
  tooLong : limit < r.html.utf8ByteSize → entries.length = 1 ∧
    response = ⟨413, .record [("detail", .text s!"HTML payload exceeds {limit} bytes")]⟩
  unknown : r.html.utf8ByteSize ≤ limit → strange r ≠ [] → entries.length = 1 ∧
    response = ⟨422, .record [("detail",
      .text ("Unknown metadata fields: " ++ String.intercalate ", " (strange r)))]⟩
  /-- The last entry is the only one for a warning or an error. -/
  fault : r.html.utf8ByteSize ≤ limit → strange r = [] → ∀ fault, done.result = .error fault →
    response = ⟨if fault.kind = .value then 400 else 500,
      .record [("detail", .text fault.message)]⟩ ∧
    ∃ opening before last, entries = opening :: before ++ [last] ∧
      (∀ e ∈ opening :: before, e.severity = .debug ∨ e.severity = .info) ∧
      last.severity = (if fault.kind = .value then .warning else .error) ∧
      last.event = if fault.kind = .value then "metadata_request_invalid" else "error_occurred"
  found : r.html.utf8ByteSize ≤ limit → strange r = [] → ∀ found, done.result = .ok found →
    response = ⟨200, .record [("url", .ofText? r.url), ("metadata", .record found),
      ("trace_id", id)]⟩ ∧
    ∀ e ∈ entries, e.severity = .debug ∨ e.severity = .info
  /-- Nothing tells of an end but the extraction. -/
  ended : (∀ e ∈ done.events, e.entry.event ≠ ending) → ∀ e ∈ entries, e.event ≠ ending

/-- The entries of a request from which the fields of a page are extracted. -/
structure AccountedExtraction (limit : Int) (r : MetadataRequest) (response : Response)
    (entries : List Entry) : Prop where
  ended : entries.countP (·.event == ending) = if response.status = 200 then 1 else 0
  between : r.html.utf8ByteSize ≤ limit → strange r = [] → ∃ opening fallbacks last,
    told entries = opening :: fallbacks ++ [last] ∧ Opens r opening ∧
    (∀ e ∈ fallbacks, e.event = "fallback_triggered") ∧
    if response.status = 200 then last.event = ending
    else last.severity = .warning ∨ last.severity = .error

theorem received_opens (r : MetadataRequest) : Opens r (received r) := ⟨rfl, rfl, rfl⟩

theorem failure_severity (r : MetadataRequest) (fault : Fault) :
    (failure r fault).severity = if fault.kind = .value then .warning else .error := by
  unfold failure
  split <;> rfl

theorem failure_not_debug (r : MetadataRequest) (fault : Fault) :
    (failure r fault).severity ≠ .debug := by
  rw [failure_severity]
  split <;> decide

theorem failure_event (r : MetadataRequest) (fault : Fault) : (failure r fault).event =
    if fault.kind = .value then "metadata_request_invalid" else "error_occurred" := by
  unfold failure
  split <;> rfl

theorem failure_no_end (r : MetadataRequest) (fault : Fault) :
    (failure r fault).event ≠ ending := by
  rw [failure_event]
  split <;> decide

theorem received_no_end (r : MetadataRequest) : (received r).event ≠ ending := by
  rw [(received_opens r).event]
  decide

section
variable {run : Extract} {r : MetadataRequest}

theorem reported_severity {e : Entry} (he : e ∈ reported run r) :
    e.severity = .debug ∨ e.severity = .info := by
  rcases List.mem_cons.1 he with rfl | he
  · exact .inr rfl
  · obtain ⟨event, -, rfl⟩ := List.mem_map.1 he
    exact event.entry_severity

theorem reported_no_end (h : ∀ e ∈ (asked run r).events, e.entry.event ≠ ending) {e : Entry}
    (he : e ∈ reported run r) : e.event ≠ ending := by
  rcases List.mem_cons.1 he with rfl | he
  · exact received_no_end r
  · obtain ⟨event, hevent, rfl⟩ := List.mem_map.1 he
    rcases List.mem_cons.1 hevent with rfl | hevent
    · exact Event.entry_ne_of_debug rfl
    · exact h event hevent

theorem reported_debug {e : Entry} (he : e ∈ reported run r) (hs : e.severity = .debug) :
    e.event ≠ ending := by
  rcases List.mem_cons.1 he with rfl | he
  · exact received_no_end r
  · obtain ⟨event, -, rfl⟩ := List.mem_map.1 he
    exact Event.entry_ne_of_debug hs

theorem told_reported (run : Extract) (r : MetadataRequest) :
    told (reported run r) = received r :: told ((asked run r).events.map Event.entry) := rfl

end

section
variable {limit : Int} {r : MetadataRequest} {done : Traced Fields} {id : Value}

theorem accounted_tooLong (h : limit < r.html.utf8ByteSize) :
    Accounted limit r done id (.detail 413 (.text s!"HTML payload exceeds {limit} bytes"))
      [received r] where
  first := ⟨received r, [], rfl, received_opens r⟩
  tooLong _ := ⟨rfl, rfl⟩
  unknown hle := absurd h (Int.not_lt.2 hle)
  fault hle := absurd h (Int.not_lt.2 hle)
  found hle := absurd h (Int.not_lt.2 hle)
  ended _ := List.forall_mem_singleton.2 (received_no_end r)

theorem accounted_unknown (h : r.html.utf8ByteSize ≤ limit) (hu : strange r ≠ []) :
    Accounted limit r done id (.detail 422 (unknownDetail (strange r))) [received r] where
  first := ⟨received r, [], rfl, received_opens r⟩
  tooLong hlt := absurd h (Int.not_le.2 hlt)
  unknown _ _ := ⟨rfl, rfl⟩
  fault _ hk := absurd hk hu
  found _ hk := absurd hk hu
  ended _ := List.forall_mem_singleton.2 (received_no_end r)

theorem accounted_fault {run : Extract} (h : r.html.utf8ByteSize ≤ limit) (hu : strange r = [])
    {fault : Fault} (hf : (asked run r).result = .error fault) :
    Accounted limit r (asked run r) id
      (.detail (if fault.kind = .value then 400 else 500) (.text fault.message))
      (reported run r ++ [failure r fault]) where
  first := ⟨received r, _, rfl, received_opens r⟩
  tooLong hlt := absurd h (Int.not_le.2 hlt)
  unknown _ hk := absurd hu hk
  fault _ _ other ho := by
    obtain rfl : fault = other := Except.error.inj (hf.symm.trans ho)
    exact ⟨rfl, received r, (events run r).map Event.entry, failure r fault, rfl,
      fun e he => reported_severity he, failure_severity r fault, failure_event r fault⟩
  found _ _ fields ho := by
    rw [hf] at ho
    contradiction
  ended hquiet := List.forall_mem_append.2
    ⟨fun _ he => reported_no_end hquiet he, List.forall_mem_singleton.2 (failure_no_end r fault)⟩

theorem accounted_found {run : Extract} (h : r.html.utf8ByteSize ≤ limit) (hu : strange r = [])
    {fields : Fields} (hf : (asked run r).result = .ok fields) :
    Accounted limit r (asked run r) id
      ⟨200, .record [("url", .ofText? r.url), ("metadata", .record fields), ("trace_id", id)]⟩
      (reported run r) where
  first := ⟨received r, _, rfl, received_opens r⟩
  tooLong hlt := absurd h (Int.not_le.2 hlt)
  unknown _ hk := absurd hu hk
  fault _ _ fault ho := by
    rw [hf] at ho
    contradiction
  found _ _ other ho := by
    obtain rfl : fields = other := Except.ok.inj (hf.symm.trans ho)
    exact ⟨rfl, fun e he => reported_severity he⟩
  ended hquiet := fun _ he => reported_no_end hquiet he

end

theorem countP_told {entries : List Entry}
    (h : ∀ e ∈ entries, e.severity = .debug → e.event ≠ ending) :
    (told entries).countP (·.event == ending) = entries.countP (·.event == ending) := by
  rw [told, List.countP_filter]
  refine List.countP_congr fun e he => ?_
  by_cases hs : e.severity = .debug
  · simp [hs, h e he hs]
  · simp [hs]

theorem accountedExtraction_of_told {limit : Int} {r : MetadataRequest} {response : Response}
    {entries fallbacks : List Entry} {last : Entry}
    (htold : told entries = received r :: fallbacks ++ [last])
    (hfallbacks : ∀ e ∈ fallbacks, Extraction.IsFallback e)
    (hdebug : ∀ e ∈ entries, e.severity = .debug → e.event ≠ ending)
    (hlast : if response.status = 200 then last.event = ending
      else last.event ≠ ending ∧ (last.severity = .warning ∨ last.severity = .error)) :
    AccountedExtraction limit r response entries where
  ended := by
    have hbefore : (received r :: fallbacks).countP (·.event == ending) = 0 := by
      refine List.countP_eq_zero.2 (List.forall_mem_cons.2 ⟨?_, fun e he => ?_⟩)
      · simpa using received_no_end r
      · rw [(hfallbacks e he).1]
        decide
    -- what is printed for debugging is no end, so only the last entry counts
    rw [← countP_told hdebug, htold, List.countP_append, hbefore, List.countP_singleton]
    by_cases hs : response.status = 200
    · rw [if_pos hs] at hlast
      simp [hs, hlast]
    · rw [if_neg hs] at hlast
      simp [hs, hlast.1]
  between _ _ := by
    refine ⟨received r, fallbacks, last, htold, received_opens r,
      fun e he => (hfallbacks e he).1, ?_⟩
    by_cases hs : response.status = 200
    · rw [if_pos hs] at hlast ⊢
      exact hlast
    · rw [if_neg hs] at hlast ⊢
      exact hlast.2

theorem accountedExtraction_of_refused {limit : Int} {r : MetadataRequest} {response : Response}
    (hstatus : response.status ≠ 200) (h : r.html.utf8ByteSize ≤ limit → strange r ≠ []) :
    AccountedExtraction limit r response [received r] where
  ended := by
    rw [if_neg hstatus]
    rfl
  between hle hu := absurd hu (h hle)

section
variable {limit : Int} {r : MetadataRequest}

theorem accountedExtraction_fault {fault : Fault}
    (hf : (asked extract r).result = .error fault) :
    AccountedExtraction limit r
      (.detail (if fault.kind = .value then 400 else 500) (.text fault.message))
      (reported extract r ++ [failure r fault]) := by
  obtain ⟨fallbacks, hfallbacks, htold⟩ := told_extract (.document (Markup.read r.html))
    (.ofUrl r.url) (treeFor r.fields)
  rw [show (extract _ _ _).result = .error fault from hf] at htold
  have hentries : told (reported extract r ++ [failure r fault]) =
      received r :: fallbacks ++ [failure r fault] := by
    rw [told_append, told_reported, told_eq_self
      (List.forall_mem_singleton.2 (failure_not_debug r fault))]
    exact congrArg (received r :: · ++ [failure r fault]) htold
  refine accountedExtraction_of_told hentries hfallbacks ?_ ?_
  · refine List.forall_mem_append.2 ⟨fun e he => reported_debug he, ?_⟩
    exact List.forall_mem_singleton.2 fun _ => failure_no_end r fault
  · have hstatus : (Response.detail (if fault.kind = .value then 400 else 500)
        (.text fault.message)).status ≠ 200 := by
      show (if fault.kind = .value then 400 else 500) ≠ 200
      split <;> decide
    rw [if_neg hstatus, failure_severity]
    refine ⟨failure_no_end r fault, ?_⟩
    split
    · exact .inl rfl
    · exact .inr rfl

theorem accountedExtraction_found {fields : Fields} {body : Value}
    (hf : (asked extract r).result = .ok fields) :
    AccountedExtraction limit r ⟨200, body⟩ (reported extract r) := by
  obtain ⟨fallbacks, hfallbacks, htold⟩ := told_extract (.document (Markup.read r.html))
    (.ofUrl r.url) (treeFor r.fields)
  rw [show (extract _ _ _).result = .ok fields from hf] at htold
  exact accountedExtraction_of_told (congrArg (received r :: ·) htold) hfallbacks
    (fun e he => reported_debug he) rfl

end

/-- A request for metadata is answered, and told in the log, by what is wrong with it or by what
its extraction does. -/
theorem answer_accounted {request : Request} {r : MetadataRequest} (hasks : request.Asks r)
    (limit : Int) (run : Extract) (showId : TraceId → Value) (j : Journal) :
    ∃ entries, Adds j entries (answer limit run showId request j).2 ∧
      Accounted limit r (asked run r) (showId (nextId j)) (answer limit run showId request j).1
        entries ∧
      (run = extract →
        AccountedExtraction limit r (answer limit run showId request j).1 entries) := by
  rw [answer_of_asks hasks]
  by_cases hle : r.html.utf8ByteSize ≤ limit
  · by_cases hu : strange r = []
    · cases hdone : (asked run r).result with
      | error fault =>
        rw [metadata_of_fault j hle hu hdone]
        refine ⟨_, logged_adds j _, accounted_fault hle hu hdone, ?_⟩
        rintro rfl
        exact accountedExtraction_fault hdone
      | ok fields =>
        rw [metadata_of_found j hle hu hdone]
        refine ⟨_, logged_adds j _, accounted_found hle hu hdone, ?_⟩
        rintro rfl
        exact accountedExtraction_found hdone
    · rw [metadata_of_unknown j hle hu]
      refine ⟨_, logged_adds j _, accounted_unknown hle hu, fun _ => ?_⟩
      exact accountedExtraction_of_refused (show 422 ≠ 200 by decide) fun _ => hu
  · have hlt := Int.not_le.1 hle
    rw [metadata_of_tooLong j hlt]
    refine ⟨_, logged_adds j _, accounted_tooLong hlt, fun _ => ?_⟩
    exact accountedExtraction_of_refused (show 413 ≠ 200 by decide) fun h => absurd h hle

/-- The URL is filled in before the fault, and no end is told. -/
theorem answer_brokenHost_accounted :
    brokenHost.posted.Asks brokenHost ∧
      (answer 100 extract (fun _ => .null) brokenHost.posted (.start 20)).1.status = 400 ∧
      ∃ entries, Adds (.start 20) entries
          (answer 100 extract (fun _ => .null) brokenHost.posted (.start 20)).2 ∧
        Accounted 100 brokenHost (asked extract brokenHost) .null
          (answer 100 extract (fun _ => .null) brokenHost.posted (.start 20)).1 entries ∧
        entries.countP (·.event == ending) = 0 := by
  have hasks := brokenHost.asks_posted
  have hstatus : (answer 100 extract (fun _ => .null) brokenHost.posted (.start 20)).1.status =
      400 := by decide +kernel
  obtain ⟨entries, hadds, haccounted, hextraction⟩ :=
    answer_accounted hasks 100 extract (fun _ => .null) (.start 20)
  refine ⟨hasks, hstatus, entries, hadds, haccounted, ?_⟩
  rw [(hextraction rfl).ended, hstatus, if_neg (by decide)]

end LinkPreview.Service
