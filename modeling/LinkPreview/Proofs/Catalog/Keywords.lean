import LinkPreview.Proofs.Catalog.Row
import LinkPreview.Proofs.Text.Occurrence

set_option autoImplicit false

namespace LinkPreview

/-- A text that is not empty, has no blank at its ends, and is not split any further. -/
structure IsKeyword (w : String) : Prop where
  ne_empty : w ≠ ""
  stripped : Text.strip w = w
  unbroken : ',' ∉ w.toList

namespace Processor
open Text
variable {s w : String} {ws : List String}

theorem toList_keywordsOf (s : String) :
    (keywordsOf s).map String.toList =
      ((splitAt ',' s.toList).map trim).filter (!·.isEmpty) := by
  simp [keywordsOf]

theorem mem_keywordsOf_iff :
    w ∈ keywordsOf s ↔ w ≠ "" ∧ ∃ piece ∈ splitAt ',' s.toList, trim piece = w.toList := by
  have hmem : w ∈ keywordsOf s ↔ w.toList ∈ (keywordsOf s).map String.toList := by
    simp [String.toList_inj]
  rw [hmem, toList_keywordsOf]
  simp [and_comm]

theorem isKeyword_of_mem (h : w ∈ keywordsOf s) : IsKeyword w := by
  obtain ⟨hne, piece, hp, hw⟩ := mem_keywordsOf_iff.1 h
  refine ⟨hne, ?_, ?_⟩
  case refine_1 => rw [strip_eq_self_iff, ← hw, trim_trim]
  case refine_2 =>
    intro hcomma
    rw [← hw] at hcomma
    exact (mem_splitAt_iff.1 ⟨piece, hp, (trim_part piece).subset hcomma⟩).2 rfl

theorem occur_keywordsOf (s : String) : Occur ((keywordsOf s).map String.toList) s.toList := by
  have hpieces : Occur (splitAt ',' s.toList) s.toList := by
    conv_rhs => rw [← join_splitAt ',' s.toList]
    exact occur_join [','] _
  rw [toList_keywordsOf]
  exact (hpieces.map trim_part).sublist List.filter_sublist

theorem keywordsOf_append (s t : String) :
    keywordsOf (s ++ "," ++ t) = keywordsOf s ++ keywordsOf t := by
  have hcut : (s ++ "," ++ t).toList = s.toList ++ ',' :: t.toList := by simp
  simp [keywordsOf, hcut, splitAt_append_sep]

example : keywordsOf " one,, two\tthree ,\n" = ["one", "two\tthree"] := by decide

theorem keywordsOf_intercalate (h : ∀ w ∈ ws, IsKeyword w) :
    keywordsOf (",".intercalate ws) = ws := by
  by_cases hne : ws = []
  · subst hne
    rfl
  have hcut : splitAt ',' (",".intercalate ws).toList = ws.map String.toList := by
    rw [String.toList_intercalate, ← join_eq_intercalate]
    refine splitAt_join (by simpa using hne) ?_
    simpa using fun w hw => (h w hw).unbroken
  have htrim : (ws.map String.toList).map trim = ws.map String.toList := by
    simpa using fun w hw => strip_eq_self_iff.1 (h w hw).stripped
  have hkeep : (ws.map String.toList).filter (!·.isEmpty) = ws.map String.toList := by
    simpa [List.filter_eq_self] using fun w hw => (h w hw).ne_empty
  rw [keywordsOf, hcut, htrim, hkeep]
  simp

theorem keywordsOf_eq_nil_iff :
    keywordsOf s = [] ↔ ∀ c ∈ s.toList, c = ',' ∨ isBlank c = true := by
  have hnil : keywordsOf s = [] ↔
      ∀ piece ∈ splitAt ',' s.toList, ∀ c ∈ piece, isBlank c = true := by
    simp [keywordsOf, List.filter_eq_nil_iff, trim_eq_nil_iff]
  rw [hnil]
  constructor
  · intro h c hc
    rw [or_iff_not_imp_left]
    intro hcomma
    obtain ⟨piece, hp, hc⟩ := mem_splitAt_iff.2 ⟨hc, hcomma⟩
    exact h piece hp c hc
  · intro h piece hp c hc
    obtain ⟨hc, hcomma⟩ := mem_splitAt_iff.1 ⟨piece, hp, hc⟩
    exact (h c hc).resolve_left hcomma

end Processor

theorem findSome?_filterMap {α β γ : Type} (read? : α → Option β) (find? : β → Option γ)
    (items : List α) :
    (items.filterMap read?).findSome? find? = items.findSome? fun a => (read? a).bind find? := by
  induction items with
  | nil => rfl
  | cons a more ih =>
    cases h : read? a with
    | none => simp [h, ih]
    | some b => simp [h, ih, List.findSome?_cons]

namespace Catalog

def keywordRow : Spot × Source := content "meta[name=\"keywords\" i]"

def content? (element : Place) : Option String :=
  (element.attribute? "content").map Attribute.text

def keywordContents (page : Place) : List String :=
  match keywordRow.1.target.pick page with
  | .ok elements => elements.filterMap content?
  | .error _ => []

/-- The value that is made of a content, if it has a keyword. -/
def keywordsIn? (s : String) : Option Value :=
  if Processor.keywordsOf s = [] then none else some (.texts (Processor.keywordsOf s))

theorem keywordsIn?_eq_none_iff {s : String} :
    keywordsIn? s = none ↔ Processor.keywordsOf s = [] := by
  unfold keywordsIn?
  split <;> simp [*]

section
variable {context : Context} {page : Place}

/-- A content that is blank has no keyword either, so only the keywords count. -/
theorem valueAt_keywords (element : Place) :
    keywords.matcher.valueAt context (Field.rule keywordRow) element =
      .ok ((content? element).bind keywordsIn?) := by
  have hraw : (Field.rule keywordRow).extract element = .ok (Value.ofText? (content? element)) :=
    rfl
  cases hc : content? element with
  | none =>
    rw [hc] at hraw
    exact Matcher.valueAt_eq_none_iff.2 ⟨.null, hraw, .inl rfl⟩
  | some s =>
    rw [hc] at hraw
    rw [Option.bind_some, keywordsIn?]
    have hvalue : Matcher.processAll context keywords.matcher.processors (.text s) =
        .ok (.texts (Processor.keywordsOf s)) := rfl
    by_cases hw : Processor.keywordsOf s = []
    · rw [if_pos hw]
      rw [hw] at hvalue
      exact Matcher.valueAt_eq_none_iff.2 ⟨.text s, hraw, .inr ⟨_, hvalue, rfl⟩⟩
    · rw [if_neg hw]
      have hblank : Text.isBlankText s = false := by
        rw [← Bool.not_eq_true, Text.isBlankText_eq_true_iff]
        intro h
        exact hw (Processor.keywordsOf_eq_nil_iff.2 fun c hc => .inr (h c hc))
      refine Matcher.valueAt_eq_some_iff.2 ⟨.text s, hraw, hblank, hvalue, ?_⟩
      simpa [Value.isEmpty, Value.texts] using hw

theorem exists_contents (page : Place) : ∃ elements,
    (Field.rule keywordRow).target.pick page = .ok elements ∧
      keywordContents page = elements.filterMap content? := by
  obtain ⟨elements, hp⟩ :=
    Field.exists_pick (rows_flat keywords (by decide) keywordRow (by decide)) page
  have hpick : keywordRow.1.target.pick page = .ok elements := hp
  exact ⟨elements, hp, by rw [keywordContents, hpick]⟩

theorem tryRule_keywords (position : Nat) :
    keywords.matcher.tryRule context page position (Field.rule keywordRow) =
      .ok (((keywordContents page).findSome? keywordsIn?).map
        fun value => ⟨value, position, none⟩) := by
  obtain ⟨elements, hp, hcontents⟩ := exists_contents page
  have hscorer : keywords.matcher.scorer = none := rfl
  rw [Matcher.tryRule, hp, ok_bind, hscorer]
  dsimp only
  rw [Matcher.firstValue_eq_findSome? valueAt_keywords, hcontents, findSome?_filterMap]
  rfl

theorem run_keywords : ∃ found, keywords.matcher.run page context = .ok found ∧
    found.map (·.value) = (keywordContents page).findSome? keywordsIn? := by
  have hrules : keywords.matcher.rules = [Field.rule keywordRow] := rfl
  rw [Matcher.run, hrules, Matcher.tryFrom, tryRule_keywords, ok_bind]
  cases (keywordContents page).findSome? keywordsIn? with
  | none => exact ⟨none, rfl, rfl⟩
  | some value => exact ⟨some ⟨value, 0, none⟩, rfl, rfl⟩

theorem runRules_keywords :
    (RuleTree.runRules page context keywords.ruleSet).result =
      .ok ((keywordContents page).findSome? keywordsIn?) :=
  (Field.runRules_eq_ok_iff (List.cons_ne_nil _ _)).2 run_keywords

end

/-- The keywords of a text are had again from their own text, and those of two texts with a comma
between them are the ones of each. A page has none if its contents for them are commas and
blanks. -/
theorem keywords_split :
    (∀ s, (∀ w ∈ Processor.keywordsOf s, IsKeyword w) ∧
      Text.Occur ((Processor.keywordsOf s).map String.toList) s.toList ∧
      Processor.keywordsOf (",".intercalate (Processor.keywordsOf s)) = Processor.keywordsOf s) ∧
    (∀ s t, Processor.keywordsOf (s ++ "," ++ t) =
      Processor.keywordsOf s ++ Processor.keywordsOf t) ∧
    ∀ page context,
      (RuleTree.runRules page context keywords.ruleSet).result =
        .ok ((keywordContents page).findSome? keywordsIn?) ∧
      ((RuleTree.runRules page context keywords.ruleSet).result = .ok none ↔
        ∀ s ∈ keywordContents page, ∀ c ∈ s.toList, c = ',' ∨ Text.isBlank c = true) := by
  refine ⟨fun s => ⟨?_, ?_, ?_⟩, ?_, fun page context => ⟨runRules_keywords, ?_⟩⟩
  · exact fun w hw => Processor.isKeyword_of_mem hw
  · exact Processor.occur_keywordsOf s
  · exact Processor.keywordsOf_intercalate fun w hw => Processor.isKeyword_of_mem hw
  · exact Processor.keywordsOf_append
  · rw [runRules_keywords, Except.ok.injEq, List.findSome?_eq_none_iff]
    refine forall₂_congr fun s _ => ?_
    rw [keywordsIn?_eq_none_iff, Processor.keywordsOf_eq_nil_iff]

end Catalog
end LinkPreview
