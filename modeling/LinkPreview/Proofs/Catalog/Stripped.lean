import LinkPreview.Proofs.Catalog.Keywords
import LinkPreview.Proofs.Catalog.PageUrl
import LinkPreview.Proofs.Catalog.Texts
import LinkPreview.Proofs.Url.Ends

/-! The standard fields are stripped of blanks when they are read. Two of them go on from there: a
language is cut at a hyphen, and the URL is resolved, and both may bring up a blank at the end. -/
set_option autoImplicit false

namespace LinkPreview

def Value.IsStripped (v : Value) : Prop := ∃ s, v = .text s ∧ Text.strip s = s

theorem Value.isStripped_iff {cs : List Char} :
    (Value.text (String.ofList cs)).IsStripped ↔ Text.trim cs = cs := by
  unfold IsStripped
  constructor
  · rintro ⟨s, hs, hstrip⟩
    obtain rfl := Value.text.inj hs
    rw [Text.strip_eq_self_iff, String.toList_ofList] at hstrip
    exact hstrip
  · intro h
    exact ⟨_, rfl, by rw [Text.strip_eq_self_iff, String.toList_ofList, h]⟩

theorem Value.isStripped_strip (s : String) : (Value.text (Text.strip s)).IsStripped :=
  ⟨_, rfl, Text.strip_strip s⟩

theorem Text.trim_before_iff (sep : Char) (cs : List Char) :
    trim (before sep (trim cs)) = before sep (trim cs) ↔
      ∀ c ∈ (before sep (trim cs)).getLast?, isBlank c = false := by
  rw [trim_eq_self_iff, and_iff_right_iff_imp]
  intro _ c hc
  have hprefix : before sep (trim cs) <+: trim cs := List.takeWhile_prefix _
  exact (trim_eq_self_iff.1 (trim_trim cs)).1 c (head?_of_initial hprefix c hc)

namespace Catalog

def Field.Reads (f : Field) (page : Place) (s : String) : Prop :=
  ∃ row ∈ f.rules, ∃ elements, row.1.target.pick page = .ok elements ∧
    ∃ element ∈ elements, row.2.extractor element = .ok (.text s)

/-- A field is found by reading a text and taking the steps of the field from there. -/
theorem Field.exists_read {page : Place} {url : Option String} {base : Fields}
    (h : (tree.resolve page (.ofUrl url)).result = .ok base) {f : Field} (hf : f ∈ fields)
    {v : Value} (hv : base.get? f.name = some v) :
    ∃ s, f.Reads page s ∧ Text.isBlankText s = false ∧
      Matcher.processAll (.ofUrl url) (f.steps.map Step.processor) (.text s) = .ok v := by
  have hruns := runRules_of_resolve h hf
  rw [hv] at hruns
  obtain ⟨found, hrun, hv⟩ := (runRules_eq_ok_iff (rules_ne_nil f hf)).1 hruns
  obtain ⟨found, rfl, rfl⟩ := Option.map_eq_some_iff.1 hv
  obtain ⟨before, row, after, hrows, -, elements, hpick, element, he, hvalue⟩ :=
    exists_row_of_run hrun
  obtain ⟨raw, hraw, hne, hprocess, -⟩ := Matcher.valueAt_eq_some_iff.1 hvalue
  have hrow : row ∈ f.rules := hrows ▸ List.mem_append_right before List.mem_cons_self
  obtain ⟨s, rfl⟩ := text_of_extract (List.mem_map_of_mem hrow) hraw hne
  exact ⟨s, ⟨row, hrow, elements, hpick, element, he, hraw⟩, hne, hprocess⟩

/-- What is stripped of the fields that the rules find on a page at a URL. -/
structure Stripped (page : Place) (url : Option String) (base : Fields) : Prop where
  plain : ∀ key ∈ ["description", "title", "type", "provider"], ∀ v,
    base.get? key = some v → v.IsStripped
  keywords : ∀ v, base.get? "keywords" = some v →
    ∃ ws, v = .texts ws ∧ ∀ w ∈ ws, Text.strip w = w
  /-- A language ends with what stands before the hyphen. -/
  language : ∀ v, base.get? "language" = some v → ∃ s, language.Reads page s ∧
    v = .text (String.ofList (Text.before '-' (Text.trim s.toList))) ∧
    (v.IsStripped ↔
      ∀ c ∈ (Text.before '-' (Text.trim s.toList)).getLast?, Text.isBlank c = false)
  /-- A URL is as it is read, or is written anew from its parts. -/
  url : ∀ v, base.get? "url" = some v → ∃ s, Catalog.url.Reads page s ∧
    (v = .text (Text.strip s) ∨ ∃ u b r, url = some u ∧
      Url.Joins u.toList (Text.trim s.toList) b r ∧
      v = .text (String.ofList (Url.resolve b r).write) ∧
      (v.IsStripped ↔ (Url.resolve b r).Bare) ∧
      (b.scheme ≠ [] → r.body ≠ [] → (∀ c ∈ r.body.getLast?, Text.isBlank c = false) →
        v.IsStripped))

section
variable {page : Place} {url : Option String} {v : Value}

theorem plain_steps : ∀ key ∈ ["description", "title", "type", "provider"],
    ∃ f ∈ fields, f.name = key ∧ f.steps = [.strip] := by decide

theorem resolveUrl_eq_ok {s : String} (hs : Text.isBlankText s = false)
    (h : Processor.resolveUrl (.text (Text.strip s)) (.ofUrl url) = .ok v) :
    v = .text (Text.strip s) ∨ ∃ u b r, url = some u ∧
      Url.Joins u.toList (Text.trim s.toList) b r ∧
      v = .text (String.ofList (Url.resolve b r).write) := by
  cases url with
  | none => exact .inl (Except.ok.inj h).symm
  | some u =>
    cases hu : u.isEmpty with
    | true =>
      simp only [Processor.resolveUrl, Context.ofUrl, hu, if_true] at h
      exact .inl (Except.ok.inj h).symm
    | false =>
      rw [Processor.resolveUrl_ofUrl hu] at h
      obtain ⟨t, ht, rfl⟩ := Context.of_resolve_text h
      rw [Option.getD_some, Text.strip, String.toList_ofList] at ht
      have hne : Text.trim s.toList ≠ [] := by simpa [Text.isBlankText] using hs
      rcases Url.absolute_eq_or_resolved hne ht with rfl | ⟨b, r, hjoins, rfl⟩
      · exact .inl rfl
      · exact .inr ⟨u, b, r, rfl, hjoins, rfl⟩

theorem stripped_of_resolve {base : Fields}
    (h : (tree.resolve page (.ofUrl url)).result = .ok base) : Stripped page url base := by
  constructor
  case plain =>
    intro key hkey v hv
    obtain ⟨f, hf, rfl, hsteps⟩ := plain_steps key hkey
    obtain ⟨s, -, -, hv⟩ := Field.exists_read h hf hv
    rw [hsteps] at hv
    obtain rfl : .text (Text.strip s) = v := Except.ok.inj hv
    exact Value.isStripped_strip s
  case keywords =>
    intro v hv
    have hf : keywords ∈ fields := by decide
    obtain ⟨s, -, -, hv⟩ := Field.exists_read h hf hv
    obtain rfl : .texts (Processor.keywordsOf s) = v := Except.ok.inj hv
    exact ⟨_, rfl, fun w hw => (Processor.isKeyword_of_mem hw).stripped⟩
  case language =>
    intro v hv
    have hf : language ∈ fields := by decide
    obtain ⟨s, hreads, -, hv⟩ := Field.exists_read h hf hv
    obtain rfl : .text (String.ofList (Text.before '-' (Text.strip s).toList)) = v :=
      Except.ok.inj hv
    rw [Text.strip, String.toList_ofList]
    exact ⟨s, hreads, rfl, Value.isStripped_iff.trans (Text.trim_before_iff '-' s.toList)⟩
  case url =>
    intro v hv
    have hf : Catalog.url ∈ fields := by decide
    obtain ⟨s, hreads, hs, hv⟩ := Field.exists_read h hf hv
    obtain ⟨stripped, hstrip, hv⟩ := bind_eq_ok.1 hv
    obtain rfl : .text (Text.strip s) = stripped := Except.ok.inj hstrip
    obtain ⟨w, hw, hv⟩ := bind_eq_ok.1 hv
    obtain rfl : w = v := Except.ok.inj hv
    refine ⟨s, hreads, ?_⟩
    rcases resolveUrl_eq_ok hs hw with rfl | ⟨u, b, r, rfl, hjoins, rfl⟩
    · exact .inl rfl
    · have hstripped := Value.isStripped_iff.trans hjoins.trim_iff
      exact .inr ⟨u, b, r, rfl, hjoins, rfl, hstripped,
        fun hb hne hlast => hstripped.2 (hjoins.bare hb hne hlast)⟩

end

/-- The standard fields that the rules find are stripped as far as their steps allow. In the end
these are all fields, but for a URL or a provider that no rule finds. -/
theorem extract_stripped {page : Place} {url : Option String} {found : Fields}
    (h : (extract page (.ofUrl url) tree).result = .ok found) :
    ∃ base, (tree.resolve page (.ofUrl url)).result = .ok base ∧
      (∀ key, found.get? key = base.get? key ∨
        base.get? key = none ∧ (key = "url" ∨ key = "provider")) ∧
      Stripped page url base := by
  obtain ⟨base, provider, hbase, -, rfl⟩ := extract_result_eq_ok_iff.1 h
  refine ⟨base, hbase, ?_, stripped_of_resolve hbase⟩
  intro key
  rw [Extraction.get?_filled]
  cases hb : base.get? key with
  | some v => exact .inl rfl
  | none =>
    by_cases hkey : key = "url" ∨ key = "provider"
    · exact .inr ⟨rfl, hkey⟩
    · rw [not_or] at hkey
      refine .inl ?_
      rw [Extraction.fallback, if_neg hkey.1, if_neg hkey.2]
      rfl

def textAt? (found : Fields) (key : String) : Option String :=
  (found.get? key).bind fun v => v.asText.toOption

theorem get?_of_textAt? {found : Fields} {key s : String} (h : textAt? found key = some s) :
    found.get? key = some (.text s) := by
  obtain ⟨v, hv, hs⟩ := Option.bind_eq_some_iff.1 h
  cases v with
  | text t =>
    obtain rfl : t = s := Option.some.inj hs
    exact hv
  | null | bool _ | number _ | list _ | tuple _ | record _ => contradiction

/-- A language with a blank before its hyphen, and a link with one before an empty fragment. -/
def cutPage : Place := .document
  (.element ⟨"html", [("lang", .single "en -US")]⟩
    (.element ⟨"link", [("rel", .words ["canonical"]), ("href", .single "page #")]⟩ .nil .nil)
    .nil)

theorem extract_cutPage_stripped :
    ∃ found base, (extract cutPage (.ofUrl none) tree).result = .ok found ∧
      found.get? "language" = some (.text "en ") ∧ Stripped cutPage none base ∧
      ∃ s, language.Reads cutPage s ∧ Text.before '-' (Text.trim s.toList) = ['e', 'n', ' '] := by
  have heval : ((extract cutPage (.ofUrl none) tree).result.toOption.map
      fun found => textAt? found "language") = some (some "en ") := by decide +kernel
  obtain ⟨found, hfound, htext⟩ := exists_of_eval heval
  have hlanguage := get?_of_textAt? htext
  obtain ⟨base, -, hbase, hstripped⟩ := extract_stripped hfound
  have hsame : base.get? "language" = some (.text "en ") := by
    rcases hbase "language" with hsame | ⟨-, hkey⟩
    · rw [← hsame, hlanguage]
    · exact absurd hkey (by decide)
  obtain ⟨s, hreads, hs, -⟩ := hstripped.language _ hsame
  refine ⟨found, base, hfound, hlanguage, hstripped, s, hreads, ?_⟩
  exact String.ofList_injective (Value.text.inj hs).symm

/-- Both values end in a blank, though they were stripped when they were read. -/
theorem extract_cutPage_blank :
    ∃ found, (extract cutPage (.ofUrl (some "http://example.com/")) tree).result = .ok found ∧
      found.get? "language" = some (.text "en ") ∧
      found.get? "url" = some (.text "http://example.com/page ") ∧
      ¬ (Value.text "en ").IsStripped ∧
      ¬ (Value.text "http://example.com/page ").IsStripped := by
  have heval : ((extract cutPage (.ofUrl (some "http://example.com/")) tree).result.toOption.map
      fun found => (textAt? found "language", textAt? found "url")) =
        some (some "en ", some "http://example.com/page ") := by decide +kernel
  obtain ⟨found, hfound, htexts⟩ := exists_of_eval heval
  obtain ⟨hlanguage, hurl⟩ := Prod.mk.inj htexts
  refine ⟨found, hfound, get?_of_textAt? hlanguage, get?_of_textAt? hurl, ?_, ?_⟩
  · rintro ⟨s, hs, hstrip⟩
    obtain rfl := Value.text.inj hs
    exact absurd hstrip (by decide)
  · rintro ⟨s, hs, hstrip⟩
    obtain rfl := Value.text.inj hs
    exact absurd hstrip (by decide)

end Catalog
end LinkPreview
