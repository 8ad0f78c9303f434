import LinkPreview.Proofs.Catalog.Field
import LinkPreview.Proofs.Extraction.Fallback
import LinkPreview.Proofs.Extraction.Mirror
import LinkPreview.Proofs.Rule.Simulation
import LinkPreview.Proofs.Url.Scheme

/-! The URL of a page does not decide where a field is found. It only turns the references found
without it into absolute ones, and fills two fields that would be left out. -/
set_option autoImplicit false

namespace LinkPreview

def Context.Resolves (url : String) (v w : Value) : Prop := Context.resolve (some url) v = .ok w

namespace Processor

theorem strip_ok (raw : Value) :
    ∃ v, v.isEmpty = raw.isEmpty ∧ ∀ context, strip raw context = .ok v := by
  cases raw with
  | text s => exact ⟨.text (Text.strip s), Text.isBlankText_strip s, fun _ => rfl⟩
  | null | bool _ | number _ | list _ | tuple _ | record _ => exact ⟨_, rfl, fun _ => rfl⟩

theorem resolveUrl_ofUrl {u : String} (hu : u.isEmpty = false) (v : Value) :
    resolveUrl v (.ofUrl (some u)) = Context.resolve (some u) v := by
  simp [resolveUrl, Context.ofUrl, hu]

end Processor

namespace Catalog

theorem Step.processor_congr {step : Step} (h : step ≠ .resolveUrl) (v : Value)
    (base context : Context) : step.processor v base = step.processor v context := by
  cases step with
  | resolveUrl => contradiction
  | strip | splitKeywords | primaryLanguage => rfl

namespace Field
variable {f : Field} {u : String}

theorem scorer_byElement {score : Scorer} (h : f.matcher.scorer = some score) :
    score.ByElement := by
  change f.scorer? = some score at h
  unfold scorer? at h
  split at h
  · obtain rfl := Option.some.inj h
    exact fun v w element => rfl
  · contradiction

theorem carries_eq (h : .resolveUrl ∉ f.steps) (base context : Context) :
    f.matcher.Carries Eq base context := by
  refine Matcher.carries_eq ?_
  intro process hp v
  obtain ⟨step, hs, rfl⟩ := List.mem_map.1 hp
  exact Step.processor_congr (fun he => h (he ▸ hs)) v base context

theorem carries_resolves (h : f.steps = [.strip, .resolveUrl])
    (hu : Url.hasScheme u.toList = true) :
    f.matcher.Carries (Context.Resolves u) (.ofUrl none) (.ofUrl (some u)) := by
  have hempty : u.isEmpty = false := Url.isEmpty_of_hasScheme hu
  have hprocessors : f.matcher.processors = [Processor.strip, Processor.resolveUrl] := by
    show f.steps.map Step.processor = _
    rw [h]
    rfl
  intro raw hraw w hw
  obtain ⟨v, he, hv⟩ := Processor.strip_ok raw
  rw [hprocessors] at hw ⊢
  simp only [Matcher.processAll, hv, ok_bind, Processor.resolveUrl_ofUrl hempty, bind_eq_ok,
    Except.ok.injEq, exists_eq_right] at hw
  -- Neither step empties a value, so the elements that are skipped are the same.
  have hne : w.isEmpty = false := Context.resolve_not_empty hu (he.trans hraw) hw
  refine ⟨v, ?_, hw, ?_⟩
  · simp only [Matcher.processAll, hv, ok_bind]
    rfl
  · rw [he, hraw, hne]

theorem runRules_plain (hr : f.rules ≠ []) (hf : .resolveUrl ∉ f.steps) {page : Place}
    {value : Option Value}
    (h : (RuleTree.runRules page (.ofUrl (some u)) f.ruleSet).result = .ok value) :
    (RuleTree.runRules page (.ofUrl none) f.ruleSet).result = .ok value := by
  obtain ⟨other, ho, hrel⟩ := RuleTree.runRules_follows (build_ruleSet hr) (carries_eq hf _ _)
    (fun _ => scorer_byElement) value h
  cases hrel with
  | some he => rw [ho, he]
  | none => exact ho

theorem runRules_reference (hr : f.rules ≠ []) (hf : f.steps = [.strip, .resolveUrl])
    (hu : Url.hasScheme u.toList = true) {page : Place} {value : Option Value}
    (h : (RuleTree.runRules page (.ofUrl (some u)) f.ruleSet).result = .ok value) :
    ∃ other, (RuleTree.runRules page (.ofUrl none) f.ruleSet).result = .ok other ∧
      Option.Rel (Context.Resolves u) other value :=
  RuleTree.runRules_follows (build_ruleSet hr) (carries_resolves hf hu)
    (fun _ => scorer_byElement) value h

end Field

theorem plain_names : ∀ key ∈ ["description", "title", "keywords", "language", "type"],
    ∃ f ∈ fields, f.name = key ∧ .resolveUrl ∉ f.steps ∧ f.name ≠ "url" ∧ f.name ≠ "provider" := by
  decide

theorem reference_names : ∀ key ∈ ["icon_url", "image_url"],
    ∃ f ∈ fields, f.name = key ∧ f.steps = [.strip, .resolveUrl] ∧ f.name ≠ "url" ∧
      f.name ≠ "provider" := by
  decide

theorem plain_or_reference :
    ∀ f ∈ fields, .resolveUrl ∉ f.steps ∨ f.steps = [.strip, .resolveUrl] := by decide

section
variable {page : Place} {u : String} {found : Fields}

theorem runRules_of_resolve {context : Context}
    (h : (tree.resolve page context).result = .ok found) {f : Field} (hf : f ∈ fields) :
    (RuleTree.runRules page context f.ruleSet).result = .ok (found.get? f.name) :=
  RuleTree.get?_resolve (distinct_treeOf fields) h (get?_treeOf nodup_names hf)

/-- The rule sets find the same fields without the URL. -/
theorem resolve_follows (hu : Url.hasScheme u.toList = true)
    (h : (tree.resolve page (.ofUrl (some u))).result = .ok found) :
    ∃ bare : Fields, (tree.resolve page (.ofUrl none)).result = .ok bare ∧
      (∀ f ∈ fields, .resolveUrl ∉ f.steps → found.get? f.name = bare.get? f.name) ∧
      ∀ f ∈ fields, f.steps = [.strip, .resolveUrl] →
        Option.Rel (Context.Resolves u) (bare.get? f.name) (found.get? f.name) := by
  have hruns : ∀ set ∈ tree.ruleSets, ∃ value,
      (RuleTree.runRules page (.ofUrl none) set).result = .ok value := by
    intro set hs
    obtain ⟨f, hf, rfl⟩ := mem_ruleSets_treeOf hs
    have hfound := runRules_of_resolve h hf
    rcases plain_or_reference f hf with hplain | href
    · exact ⟨_, Field.runRules_plain (rules_ne_nil f hf) hplain hfound⟩
    · obtain ⟨value, hv, -⟩ := Field.runRules_reference (rules_ne_nil f hf) href hu hfound
      exact ⟨value, hv⟩
  obtain ⟨bare, hbare⟩ := RuleTree.resolve_ok tree hruns
  refine ⟨bare, hbare, ?_, ?_⟩
  · intro f hf hplain
    have hv := Field.runRules_plain (rules_ne_nil f hf) hplain (runRules_of_resolve h hf)
    rw [runRules_of_resolve hbare hf] at hv
    exact (Except.ok.inj hv).symm
  · intro f hf href
    obtain ⟨value, hv, hrel⟩ :=
      Field.runRules_reference (rules_ne_nil f hf) href hu (runRules_of_resolve h hf)
    rw [runRules_of_resolve hbare hf] at hv
    rwa [Except.ok.inj hv]

theorem keys_of_resolve {context : Context}
    (h : (tree.resolve page context).result = .ok found) :
    found.keys.Nodup ∧ ∀ key ∈ found.keys, key ∈ fields.map (·.name) := by
  refine ⟨RuleTree.nodup_keys_of_resolve (distinct_treeOf fields) h, ?_⟩
  intro key hk
  exact mem_keys_treeOf.1 (RuleTree.mem_keys_of_resolve h key hk)

end

theorem text_of_provider {u : String} {provider : Value}
    (h : (Context.hostOf (.text u) >>= Provider.ofValue) = .ok provider) :
    ∃ label, provider = .text label := by
  obtain ⟨host, hh, hp⟩ := bind_eq_ok.1 h
  simp only [Context.hostOf] at hh
  split at hh
  · rename_i name _
    obtain rfl := Except.ok.inj hh
    cases name with
    | none => exact ⟨_, (Except.ok.inj hp).symm⟩
    | some cs =>
      simp only [Provider.ofValue, Option.map_some, Value.ofText?] at hp
      cases hf : (Value.text (String.ofList cs)).isFalsy with
      | true => exact ⟨_, by simpa [hf] using hp.symm⟩
      | false => exact ⟨_, by simpa [hf] using hp.symm⟩
  · contradiction

/-- The fields of a page at a URL, beside the fields of the same page without one. -/
structure AtUrl (u : String) (bare fields : Fields) : Prop where
  kept : ∀ key ∈ ["description", "title", "keywords", "language", "type"],
    fields.get? key = bare.get? key
  resolved : ∀ key ∈ ["icon_url", "image_url"],
    Option.Rel (Context.Resolves u) (bare.get? key) (fields.get? key)
  url : match bare.get? "url" with
    | some v => ∃ w, Context.Resolves u v w ∧ fields.get? "url" = some w
    | none => fields.get? "url" = some (.text u)
  provider : match bare.get? "provider" with
    | some v => fields.get? "provider" = some v
    | none => ∃ label, (Context.hostOf (.text u) >>= Provider.ofValue) = .ok (.text label) ∧
        fields.get? "provider" = if label.isEmpty then none else some (.text label)
  named : ∀ key ∈ fields.keys, key ∈ Catalog.fields.map (·.name)
  nodup : fields.keys.Nodup

theorem atUrl_fill {u : String} {bare found : Fields} {value : Option Value}
    (hplain : ∀ f ∈ fields, .resolveUrl ∉ f.steps → found.get? f.name = bare.get? f.name)
    (href : ∀ f ∈ fields, f.steps = [.strip, .resolveUrl] →
      Option.Rel (Context.Resolves u) (bare.get? f.name) (found.get? f.name))
    (hnodup : found.keys.Nodup) (hnamed : ∀ key ∈ found.keys, key ∈ fields.map (·.name))
    (hvalue : (found.fill "url" (some (.text u))).has "provider" = false →
      ∃ provider, (Context.hostOf (.text u) >>= Provider.ofValue) = .ok provider ∧
        value = if provider.isFalsy then none else some provider) :
    AtUrl u bare ((found.fill "url" (some (.text u))).fill "provider" value) := by
  constructor
  case kept =>
    intro key hk
    obtain ⟨f, hf, rfl, hs, hurl, hsite⟩ := plain_names key hk
    rw [Fields.get?_fill_of_ne _ _ hsite, Fields.get?_fill_of_ne _ _ hurl]
    exact hplain f hf hs
  case resolved =>
    intro key hk
    obtain ⟨f, hf, rfl, hs, hurl, hsite⟩ := reference_names key hk
    rw [Fields.get?_fill_of_ne _ _ hsite, Fields.get?_fill_of_ne _ _ hurl]
    exact href f hf hs
  case url =>
    have hrel : Option.Rel (Context.Resolves u) (bare.get? "url") (found.get? "url") :=
      href url (by decide) rfl
    rw [Fields.get?_fill_of_ne _ _ (by decide), Fields.get?_fill_self]
    generalize bare.get? "url" = x at hrel ⊢
    generalize found.get? "url" = y at hrel ⊢
    cases hrel with
    | some hr => exact ⟨_, hr, rfl⟩
    | none => rfl
  case provider =>
    have hsame : found.get? "provider" = bare.get? "provider" :=
      hplain provider (by decide) (by decide)
    rw [Fields.get?_fill_self, Fields.get?_fill_of_ne _ _ (by decide), hsame]
    cases hb : bare.get? "provider" with
    | some v => rfl
    | none =>
      have hopen : (found.fill "url" (some (.text u))).has "provider" = false := by
        rw [Fields.has_eq_isSome, Fields.get?_fill_of_ne _ _ (by decide), hsame, hb]
        rfl
      obtain ⟨name, ho, rfl⟩ := hvalue hopen
      obtain ⟨label, rfl⟩ := text_of_provider ho
      exact ⟨label, ho, rfl⟩
  case named =>
    intro key hk
    rcases Fields.mem_keys_fill hk with hk | rfl
    · rcases Fields.mem_keys_fill hk with hk | rfl
      · exact hnamed key hk
      · decide
    · decide
  case nodup => exact Fields.nodup_keys_fill (Fields.nodup_keys_fill hnodup)

/-- If a page has fields at a URL with a scheme, it has fields without one, and these tell what
those at the URL are. -/
theorem extract_ofUrl {page : Place} {u : String} {found : Fields}
    (hu : Url.hasScheme u.toList = true)
    (h : (extract page (.ofUrl (some u)) tree).result = .ok found) :
    ∃ bare : Fields, (extract page (.ofUrl none) tree).result = .ok bare ∧
      AtUrl u bare found := by
  have hempty : u.isEmpty = false := Url.isEmpty_of_hasScheme hu
  have hprovider : tree.hasRules "provider" = true := by
    have hget : tree.get? "provider" = some (.rules provider.ruleSet) :=
      get?_treeOf nodup_names (f := provider) (by decide)
    rw [RuleTree.hasRules, hget]
  rw [extract_result] at h
  obtain ⟨first, hfirst, h⟩ := bind_eq_ok.1 h
  obtain ⟨second, hsecond, h⟩ := bind_eq_ok.1 h
  obtain rfl := Except.ok.inj ((Extraction.fillUrl_result hempty).symm.trans hsecond)
  obtain ⟨value, rfl, hvalue⟩ := Extraction.of_fillProvider hempty hprovider h
  obtain ⟨bare, hbare, hplain, href⟩ := resolve_follows hu hfirst
  obtain ⟨hnodup, hnamed⟩ := keys_of_resolve hfirst
  refine ⟨bare, (extract_result_of_url_none rfl).trans hbare, ?_⟩
  exact atUrl_fill hplain href hnodup hnamed hvalue

def iconPage : Place := .document
  (.element ⟨"link", [("rel", .words ["icon"]), ("href", .single "i.png")]⟩ .nil .nil)

theorem extract_iconPage_ofUrl :
    Url.hasScheme "https://news.example/a/b".toList = true ∧
      ∃ found bare : Fields,
        (extract iconPage (.ofUrl (some "https://news.example/a/b")) tree).result = .ok found ∧
        (extract iconPage (.ofUrl none) tree).result = .ok bare ∧
        AtUrl "https://news.example/a/b" bare found := by
  have hu : Url.hasScheme "https://news.example/a/b".toList = true := by decide +kernel
  have hfound : ∃ found,
      (extract iconPage (.ofUrl (some "https://news.example/a/b")) tree).result = .ok found := by
    have hok :
        (extract iconPage (.ofUrl (some "https://news.example/a/b")) tree).result.isOk = true := by
      decide +kernel
    exact exists_of_isOk hok
  obtain ⟨found, hf⟩ := hfound
  obtain ⟨bare, hb, hat⟩ := extract_ofUrl hu hf
  exact ⟨hu, found, bare, hf, hb, hat⟩

end Catalog
end LinkPreview
