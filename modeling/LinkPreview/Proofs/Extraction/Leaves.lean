import LinkPreview.Proofs.Extraction.Fallback
import LinkPreview.Proofs.Rule.Report
import LinkPreview.Catalog.Parts

/-! A tree is run leaf by leaf, and each leaf is checked only when it is reached. The first leaf
that fails ends the extraction with its fault, whatever stands after it. -/
set_option autoImplicit false

namespace LinkPreview

namespace RuleSet

def Fails (set : RuleSet) (page : Place) (context : Context) (fault : Fault) : Prop :=
  set.build = .error fault ∨ ∃ m, set.build = .ok m ∧ m.run page context = .error fault

theorem fails_iff {set : RuleSet} {page : Place} {context : Context} {fault : Fault} :
    set.Fails page context fault ↔ set.outcome page context = .error fault :=
  bind_eq_error.symm

theorem exists_outcome {set : RuleSet} {page : Place} {context : Context}
    (h : ∀ fault, ¬ set.Fails page context fault) :
    ∃ found, set.outcome page context = .ok found := by
  cases ho : set.outcome page context with
  | ok found => exact ⟨found, rfl⟩
  | error fault => exact absurd (fails_iff.2 ho) (h fault)

end RuleSet

namespace RuleTree
variable {page : Place} {context : Context}

/-- Runs rule sets one after another, for what they report and how they end. -/
def runEach (page : Place) (context : Context) (sets : List RuleSet) : Traced Unit :=
  forM sets fun set => do
    let _ ← runRules page context set

theorem runEach_cons (set : RuleSet) (sets : List RuleSet) :
    runEach page context (set :: sets) =
      runRules page context set >>= fun _ => runEach page context sets := by
  simp only [runEach, List.forM_cons, bind_assoc, pure_bind]

theorem runEach_append (sets more : List RuleSet) :
    runEach page context (sets ++ more) =
      runEach page context sets >>= fun _ => runEach page context more :=
  List.forM_append

/-- A tree reports and fails as its leaves do one after another. -/
theorem resolve_leaves (tree : RuleTree) :
    (tree.resolve page context >>= fun _ => pure ()) = runEach page context tree.ruleSets := by
  induction tree with
  | empty => rfl
  | rules key set rest ih =>
    simp only [resolve, ruleSets, runEach_cons, ← ih, bind_assoc, pure_bind]
  | group key inner rest hinner ih =>
    simp only [resolve, ruleSets, runEach_append, ← ih, ← hinner, bind_assoc, pure_bind]
  | value key v rest ih =>
    simp only [resolve, ruleSets, ← ih, bind_assoc, pure_bind]

theorem resolve_events (tree : RuleTree) :
    (tree.resolve page context).events = (runEach page context tree.ruleSets).events := by
  rw [← resolve_leaves]
  cases h : (tree.resolve page context).result with
  | error fault => rw [Traced.bind_of_error _ h]
  | ok fields => rw [Traced.bind_of_ok _ h, Traced.pure_events, List.append_nil]

theorem resolve_result_eq_error_iff {tree : RuleTree} {fault : Fault} :
    (tree.resolve page context).result = .error fault ↔
      (runEach page context tree.ruleSets).result = .error fault := by
  rw [← resolve_leaves, Traced.result_bind]
  cases (tree.resolve page context).result <;> simp

theorem runEach_of_ok {sets : List RuleSet}
    (h : ∀ set ∈ sets, ∃ found, set.outcome page context = .ok found) :
    runEach page context sets = ⟨sets.flatMap (·.report page context), .ok ()⟩ := by
  induction sets with
  | nil => rfl
  | cons set sets ih =>
    rw [List.forall_mem_cons] at h
    obtain ⟨found, hf⟩ := h.1
    rw [runEach_cons, runRules_of_outcome hf, Traced.bind_of_ok _ rfl, ih h.2,
      List.flatMap_cons]

theorem exists_outcome_of_runEach {sets : List RuleSet}
    (h : (runEach page context sets).result = .ok ()) :
    ∀ set ∈ sets, ∃ found, set.outcome page context = .ok found := by
  induction sets with
  | nil => simp
  | cons set sets ih =>
    rw [runEach_cons, Traced.result_bind, bind_eq_ok] at h
    obtain ⟨value, hv, hrest⟩ := h
    refine List.forall_mem_cons.2 ⟨?_, ih hrest⟩
    obtain ⟨m, found, hm, hf, -⟩ := runRules_result_eq_ok_iff.1 hv
    exact ⟨found, bind_eq_ok.2 ⟨m, hm, hf⟩⟩

theorem resolve_events_of_ok {tree : RuleTree} {fields : Fields}
    (h : (tree.resolve page context).result = .ok fields) :
    (tree.resolve page context).events = tree.ruleSets.flatMap (·.report page context) := by
  have hrun : (runEach page context tree.ruleSets).result = .ok () := by
    rw [← resolve_leaves, Traced.result_bind, h]
    rfl
  rw [resolve_events, runEach_of_ok (exists_outcome_of_runEach hrun)]

theorem runEach_of_fault {before after : List RuleSet} {bad : RuleSet} {fault : Fault}
    (h : ∀ set ∈ before, ∃ found, set.outcome page context = .ok found)
    (hbad : bad.outcome page context = .error fault) :
    runEach page context (before ++ bad :: after) =
      ⟨before.flatMap (·.report page context), .error fault⟩ := by
  rw [runEach_append, runEach_of_ok h, Traced.bind_of_ok _ rfl, runEach_cons,
    runRules_of_fault hbad, Traced.bind_of_error _ rfl, List.append_nil]

end RuleTree

/-- The first leaf that fails ends the extraction with its fault. The leaves before it have
reported their matches, and nothing else is reported but the start. If no leaf fails, only the
derivation of a provider can. -/
theorem extract_first_fault (page : Place) (context : Context) (tree : RuleTree) :
    (∀ before bad after fault, tree.ruleSets = before ++ bad :: after →
      (∀ set ∈ before, ∀ f, ¬ set.Fails page context f) → bad.Fails page context fault →
        extract page context tree =
          ⟨.started context.url tree.keys :: before.flatMap (·.report page context),
            .error fault⟩) ∧
      ((∀ set ∈ tree.ruleSets, ∀ f, ¬ set.Fails page context f) →
        ∃ base, (tree.resolve page context).result = .ok base ∧
          ∀ fault, (extract page context tree).result = .error fault ↔
            ∃ url, Extraction.AsksHost context tree base url ∧
              (context.host (.text url) = .error fault ∨
                ∃ host, context.host (.text url) = .ok host ∧
                  Provider.ofValue host = .error fault)) := by
  constructor
  · intro before bad after fault hsplit hbefore hbad
    have hrun : RuleTree.runEach page context tree.ruleSets =
        ⟨before.flatMap (·.report page context), .error fault⟩ := by
      rw [hsplit]
      exact RuleTree.runEach_of_fault (fun set hs => RuleSet.exists_outcome (hbefore set hs))
        (RuleSet.fails_iff.1 hbad)
    have hfault : (tree.resolve page context).result = .error fault := by
      rw [RuleTree.resolve_result_eq_error_iff, hrun]
    rw [extract_of_fault hfault, RuleTree.resolve_events, hrun]
  · intro hall
    have hrun := RuleTree.runEach_of_ok fun set hs => RuleSet.exists_outcome (hall set hs)
    cases hr : (tree.resolve page context).result with
    | error fault =>
      rw [RuleTree.resolve_result_eq_error_iff, hrun] at hr
      contradiction
    | ok base =>
      refine ⟨base, rfl, ?_⟩
      intro fault
      rw [extract_of_resolve hr]
      exact Extraction.finish_result_eq_error_iff.trans Extraction.derive_eq_error_iff

namespace RuleSet

def wholeText (name : String) : RuleSet :=
  ⟨name, [.rule (some .root) (some .text)], [.strip], none⟩

def ruleless (name : String) : RuleSet := ⟨name, [], [], none⟩

def raising (name : String) : RuleSet :=
  ⟨name, [.rule (some (.function fun _ => .error .mismatch)) (some .text)], [], none⟩

def fruitless (name : String) : RuleSet :=
  ⟨name, [.rule (some (.function fun _ => .ok [])) (some .text)], [], none⟩

end RuleSet

def RuleTree.faulty : RuleTree :=
  .rules "title" (.wholeText "title")
    (.group "more"
      (.rules "image" (.ruleless "image") (.rules "icon" (.raising "icon") .empty)) .empty)

def Place.oneWord : Place := .document (.text " A " .nil)

def Context.hostless (url : String) : Context :=
  ⟨some url, fun _ v => .ok v, fun _ => .error .mismatch⟩

/-- The second fault of the group is not heard of. Where no leaf fails, a host that cannot be
told ends the extraction. -/
theorem extract_faulty_first_fault :
    RuleTree.faulty.ruleSets = [.wholeText "title"] ++ .ruleless "image" :: [.raising "icon"] ∧
      (∀ f, ¬ (RuleSet.wholeText "title").Fails .oneWord (.ofUrl none) f) ∧
      (RuleSet.ruleless "image").Fails .oneWord (.ofUrl none) (.noRules "image") ∧
      (RuleSet.raising "icon").Fails .oneWord (.ofUrl none) .mismatch ∧
      extract .oneWord (.ofUrl none) .faulty =
        ⟨[.started none ["title", "more"], .matched "title" ⟨.text "A", 0, none⟩ none],
          .error (.noRules "image")⟩ ∧
      (∀ f, ¬ (RuleSet.fruitless "provider").Fails .oneWord (.hostless "http://a.b") f) ∧
      (extract .oneWord (.hostless "http://a.b")
        (.rules "provider" (.fruitless "provider") .empty)).result = .error .mismatch := by
  have htitle : ∀ f, ¬ (RuleSet.wholeText "title").Fails .oneWord (.ofUrl none) f := by
    intro f hf
    exact nomatch (RuleSet.fails_iff.1 hf :
      (.ok (some ⟨.text "A", 0, none⟩) : Except Fault (Option Match)) = .error f)
  have himage : (RuleSet.ruleless "image").Fails .oneWord (.ofUrl none) (.noRules "image") :=
    .inl rfl
  have hicon : (RuleSet.raising "icon").outcome .oneWord (.ofUrl none) = .error .mismatch := rfl
  have hprovider : ∀ f,
      ¬ (RuleSet.fruitless "provider").Fails .oneWord (.hostless "http://a.b") f := by
    intro f hf
    exact nomatch (RuleSet.fails_iff.1 hf : (.ok none : Except Fault (Option Match)) = .error f)
  refine ⟨rfl, htitle, himage, RuleSet.fails_iff.2 hicon, ?_, hprovider, ?_⟩
  · exact (extract_first_fault _ _ .faulty).1 [.wholeText "title"] (.ruleless "image")
      [.raising "icon"] _ rfl (List.forall_mem_singleton.2 htitle) himage
  · obtain ⟨base, hbase, hfault⟩ := (extract_first_fault .oneWord (.hostless "http://a.b")
      (.rules "provider" (.fruitless "provider") .empty)).2 (List.forall_mem_singleton.2 hprovider)
    obtain rfl := Except.ok.inj hbase
    refine (hfault .mismatch).2 ⟨"http://a.b", ⟨rfl, by decide, ⟨_, rfl⟩, ?_⟩, .inl rfl⟩
    exact List.not_mem_nil

end LinkPreview
