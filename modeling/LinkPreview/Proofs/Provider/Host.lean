import LinkPreview.Proofs.Provider.Label
import LinkPreview.Proofs.Text.Case
import LinkPreview.Proofs.Text.Pieces

set_option autoImplicit false

namespace LinkPreview.Provider
open Text

structure IsLabel (label : String) : Prop where
  ne_empty : label ≠ ""
  no_dot : '.' ∉ label.toList
  no_break : '\n' ∉ label.toList

/-- `www` in any case, and digits after it. -/
def IsWww (label : String) : Prop :=
  ∃ www digits, label.toList = www ++ digits ∧ asciiLower www = "www".toList ∧
    ∀ d ∈ digits, isDigit d = true

def IsSecondLevel (label : String) : Prop :=
  ∃ name ∈ secondLevel, asciiLower label.toList = name.toList

/-- The labels of a host, which does not start with `www` and digits. -/
structure IsHost (labels : List String) : Prop where
  isLabel : ∀ label ∈ labels, IsLabel label
  head_not_www : ∀ first ∈ labels.head?, ¬IsWww first

variable {label first second top : String} {labels before : List String}

theorem isWww_iff (h : '\n' ∉ label.toList) : isWww label.toList = true ↔ IsWww label := by
  rw [isWww, Bool.and_eq_true, Bool.or_eq_true, beq_iff_eq, beq_iff_eq, beq_iff_eq]
  constructor
  · rintro ⟨hwww, hdigits | hbreak⟩
    · exact ⟨label.toList.take 3, label.toList.drop 3, (List.take_append_drop 3 _).symm, hwww,
        List.dropWhile_eq_nil_iff.1 hdigits⟩
    · have hmem : '\n' ∈ (label.toList.drop 3).dropWhile isDigit := by simp [hbreak]
      exact absurd (List.mem_of_mem_drop ((List.dropWhile_sublist _).mem hmem)) h
  · rintro ⟨www, digits, hlabel, hwww, hdigits⟩
    have hlength : www.length = 3 := by
      have hmap := congrArg List.length hwww
      rwa [asciiLower, List.length_map] at hmap
    rw [hlabel, List.take_left' hlength, List.drop_left' hlength]
    exact ⟨hwww, .inl (List.dropWhile_eq_nil_iff.2 hdigits)⟩

theorem isSecondLevel_iff : isSecondLevel label.toList = true ↔ IsSecondLevel label := by
  have hplain : ∀ name ∈ secondLevel, ∀ x ∈ name.toList, x.toNat < 128 ∧ x ≠ 'k' ∧ x ≠ 'i' := by
    simp [secondLevel]
  rw [isSecondLevel, List.contains_iff_mem]
  constructor
  · intro hm
    have hword := hplain _ hm
    rw [String.toList_ofList] at hword
    refine ⟨_, hm, ?_⟩
    rw [String.toList_ofList]
    exact (lowerFrom_eq_iff hword).1 rfl
  · rintro ⟨name, hn, hname⟩
    rw [lower, (lowerFrom_eq_iff (hplain name hn)).2 hname, String.ofList_toList]
    exact hn

instance : Decidable (IsSecondLevel label) := decidable_of_iff _ isSecondLevel_iff

theorem isHost_iff : IsHost labels ↔
    (∀ label ∈ labels, label ≠ "" ∧ '.' ∉ label.toList ∧ '\n' ∉ label.toList) ∧
      ∀ first ∈ labels.head?, isWww first.toList = false := by
  constructor
  · intro h
    refine ⟨fun label hl => ?_, fun first hf => ?_⟩
    · have hlabel := h.isLabel label hl
      exact ⟨hlabel.ne_empty, hlabel.no_dot, hlabel.no_break⟩
    · have hlabel := h.isLabel first (List.mem_of_mem_head? hf)
      rw [← Bool.not_eq_true, isWww_iff hlabel.no_break]
      exact h.head_not_www first hf
  · rintro ⟨hlabels, hfirst⟩
    refine ⟨fun label hl => ?_, fun first hf => ?_⟩
    · obtain ⟨hne, hdot, hbreak⟩ := hlabels label hl
      exact ⟨hne, hdot, hbreak⟩
    · rw [← isWww_iff (hlabels first (List.mem_of_mem_head? hf)).2.2, Bool.not_eq_true]
      exact hfirst first hf

instance : Decidable (IsHost labels) := decidable_of_iff _ isHost_iff.symm

theorem withoutTop_map_toList (before : List String) (second top : String) :
    withoutTop ((before ++ [second, top]).map String.toList) =
      (if isSecondLevel second.toList then before else before ++ [second]).map String.toList := by
  rw [withoutTop, List.map_append, List.reverse_append]
  simp only [List.map_cons, List.map_nil, List.reverse_cons, List.reverse_nil, List.nil_append,
    List.cons_append, List.reverse_reverse]
  split <;> simp

theorem withoutWww_of_isHost (h : IsHost labels) :
    withoutWww (labels.map String.toList) = labels.map String.toList := by
  cases labels with
  | nil => rfl
  | cons first more =>
    have hfirst := h.head_not_www first rfl
    rw [← isWww_iff (h.isLabel first (by simp)).no_break] at hfirst
    exact if_neg hfirst

theorem withoutWww_of_isWww (hfirst : IsLabel first) (h : IsWww first) :
    withoutWww ((first :: labels).map String.toList) = labels.map String.toList :=
  if_pos ((isWww_iff hfirst.no_break).2 h)

theorem isLabel_of_isWww (h : IsWww label) : IsLabel label := by
  obtain ⟨www, digits, hlabel, hwww, hdigits⟩ := h
  have hmem : ∀ c ∈ label.toList, c.toLower = 'w' ∨ isDigit c = true := by
    intro c hc
    rw [hlabel] at hc
    rcases List.mem_append.1 hc with hc | hc
    · have hlower : c.toLower ∈ "www".toList := hwww ▸ List.mem_map_of_mem hc
      exact .inl (by simpa using hlower)
    · exact .inr (hdigits c hc)
  refine ⟨?_, fun hc => absurd (hmem _ hc) (by decide), fun hc => absurd (hmem _ hc) (by decide)⟩
  rintro rfl
  have hnil : www = [] := (List.append_eq_nil_iff.1 hlabel.symm).1
  rw [hnil] at hwww
  contradiction

theorem two_le_length (h : (before ++ [second, top]).Sublist labels) : 2 ≤ labels.length := by
  have hle := h.length_le
  rw [List.length_append, List.length_cons, List.length_singleton] at hle
  omega

theorem exists_last_two (h : 2 ≤ labels.length) :
    ∃ before second top, labels = before ++ [second, top] := by
  rcases List.eq_nil_or_concat labels with rfl | ⟨more, top, rfl⟩
  · simp at h
  · rcases List.eq_nil_or_concat more with rfl | ⟨before, second, rfl⟩
    · simp at h
    · exact ⟨before, second, top, by simp⟩

theorem names_of_dotted (hlength : 2 ≤ labels.length) (h : ∀ label ∈ labels, '.' ∉ label.toList) :
    names (dotted labels).toList =
      (withoutTop (withoutWww (labels.map String.toList))).filter (!·.isEmpty) := by
  have hne : labels ≠ [] := List.ne_nil_of_length_pos (by omega)
  rw [names, if_pos (List.contains_iff_mem.2 (dot_mem_dotted hlength)), splitAt_dotted hne h]

theorem dotted_ne_empty (h : 2 ≤ labels.length) : dotted labels ≠ "" := by
  intro he
  have hdot := dot_mem_dotted h
  rw [he] at hdot
  contradiction

theorem names_dotted (h : ∀ label ∈ labels, IsLabel label)
    (hkept : withoutWww (labels.map String.toList) = (before ++ [second, top]).map String.toList)
    (hsub : (before ++ [second, top]).Sublist labels) :
    names (dotted labels).toList =
      (if isSecondLevel second.toList then before else before ++ [second]).map String.toList := by
  have hnamed : (if isSecondLevel second.toList then before else before ++ [second]).Sublist
      (before ++ [second, top]) := by
    split
    · exact List.sublist_append_left before _
    · exact List.Sublist.append_left (List.sublist_append_left [second] [top]) before
  rw [names_of_dotted (two_le_length hsub) fun label hl => (h label hl).no_dot, hkept,
    withoutTop_map_toList, List.filter_eq_self]
  intro piece hp
  obtain ⟨label, hl, rfl⟩ := List.mem_map.1 hp
  simp [(h label (hsub.mem (hnamed.mem hl))).ne_empty]

theorem ofValue_dotted_of_kept (h : ∀ label ∈ labels, IsLabel label)
    (hkept : withoutWww (labels.map String.toList) = (before ++ [second, top]).map String.toList)
    (hsub : (before ++ [second, top]).Sublist labels) :
    ofValue (.text (dotted labels)) = .ok (.text (unwords
      (if isSecondLevel second.toList then before else before ++ [second]))) := by
  rw [ofValue_text, if_neg (dotted_ne_empty (two_le_length hsub)), ofHost_eq_join,
    names_dotted h hkept hsub, unwords]

/-- The name of a site has the labels of its host but the top-level domain, which is two labels if
the one before the last is of the second level. A further label with `www` changes nothing. -/
theorem ofValue_dotted (h : IsHost labels) :
    (∀ before second top, labels = before ++ [second, top] → IsSecondLevel second →
        ofValue (.text (dotted labels)) = .ok (.text (unwords before))) ∧
      (∀ before last top, labels = before ++ [last, top] → ¬IsSecondLevel last →
        ofValue (.text (dotted labels)) = .ok (.text (unwords (before ++ [last])))) ∧
      (2 ≤ labels.length → ∀ www digits : String, asciiLower www.toList = "www".toList →
        (∀ d ∈ digits.toList, isDigit d = true) →
        ofValue (.text (www ++ digits ++ "." ++ dotted labels)) =
          ofValue (.text (dotted labels))) := by
  have hhost : ∀ before second top, labels = before ++ [second, top] →
      ofValue (.text (dotted labels)) = .ok (.text (unwords
        (if isSecondLevel second.toList then before else before ++ [second]))) := by
    rintro before second top rfl
    exact ofValue_dotted_of_kept h.isLabel (withoutWww_of_isHost h) (List.Sublist.refl _)
  refine ⟨fun before second top hl hs => ?_, fun before last top hl hs => ?_, ?_⟩
  · rw [hhost before second top hl, if_pos (isSecondLevel_iff.2 hs)]
  · rw [hhost before last top hl, if_neg (mt isSecondLevel_iff.1 hs)]
  · intro hlength www digits hwww hdigits
    have hfirst : IsWww (www ++ digits) :=
      ⟨www.toList, digits.toList, String.toList_append, hwww, hdigits⟩
    have hlabel := isLabel_of_isWww hfirst
    have hne : labels ≠ [] := List.ne_nil_of_length_pos (by omega)
    obtain ⟨before, second, top, rfl⟩ := exists_last_two hlength
    rw [hhost before second top rfl, ← dotted_cons hne]
    exact ofValue_dotted_of_kept (List.forall_mem_cons.2 ⟨hlabel, h.isLabel⟩)
      (withoutWww_of_isWww hlabel hfirst) (List.sublist_cons_self _ _)

theorem ofValue_things_dotted :
    IsHost ["things", "Example", "Co", "uk"] ∧ IsHost ["co", "Example", "uk"] ∧
      ofValue (.text "things.Example.Co.uk") = .ok (.text "things Example") ∧
      ofValue (.text "co.Example.uk") = .ok (.text "co Example") ∧
      ofValue (.text "wWw2.co.Example.uk") = ofValue (.text "co.Example.uk") := by
  have hthings : IsHost ["things", "Example", "Co", "uk"] := by decide
  have hco : IsHost ["co", "Example", "uk"] := by decide
  obtain ⟨hsecond, -, -⟩ := ofValue_dotted hthings
  obtain ⟨-, hlast, hwww⟩ := ofValue_dotted hco
  exact ⟨hthings, hco, hsecond ["things", "Example"] "Co" "uk" rfl (by decide),
    hlast ["co"] "Example" "uk" rfl (by decide),
    hwww (by decide) "wWw" "2" (by decide) (List.forall_mem_singleton.2 (by decide))⟩

end LinkPreview.Provider
