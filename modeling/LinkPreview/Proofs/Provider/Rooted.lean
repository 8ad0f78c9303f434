import LinkPreview.Proofs.Provider.Host

/-! Hosts that end in a dot. What follows the dot is an empty label, and it is taken for the
top-level domain. So the label before the dot stays in the name of the site, unless it is of the
second level. -/
set_option autoImplicit false

namespace LinkPreview

namespace Text
variable {names more : List String}

theorem dotted_concat_empty (h : names ≠ []) : dotted (names ++ [""]) = dotted names ++ "." := by
  have hpieces : names.map String.toList ≠ [] := by simpa using h
  rw [← String.toList_inj, toList_dotted, List.map_append, List.map_singleton,
    join_append hpieces (List.cons_ne_nil _ _), String.toList_append, toList_dotted]
  exact List.append_nil _

theorem unwords_append_eq_iff (h : ∀ name ∈ more, name ≠ "") :
    unwords (names ++ more) = unwords names ↔ more = [] := by
  refine ⟨fun he => ?_, fun hm => by rw [hm, List.append_nil]⟩
  cases more with
  | nil => rfl
  | cons next more =>
    exfalso
    have hnext : next.toList ≠ [] := by simpa using h next List.mem_cons_self
    have hlong : join [' '] ((next :: more).map String.toList) ≠ [] := by
      cases more with
      | nil => exact hnext
      | cons third more => simp [join]
    have hmore : (next :: more).map String.toList ≠ [] := List.cons_ne_nil _ _
    have hjoin := String.ofList_injective he
    rw [List.map_append] at hjoin
    by_cases hn : names.map String.toList = []
    · rw [hn] at hjoin
      exact hlong hjoin
    · rw [join_append hn hmore, List.append_assoc, List.append_right_eq_self] at hjoin
      contradiction

end Text

namespace Provider
open Text

def afterWww : List String → List String
  | [] => []
  | first :: more => if isWww first.toList then more else first :: more

def stem (labels : List String) : List String :=
  match labels.getLast? with
  | some second => if isSecondLevel second.toList then labels.dropLast else labels
  | none => labels

variable {labels before : List String} {top last : String}

theorem withoutWww_map_toList (labels : List String) :
    withoutWww (labels.map String.toList) = (afterWww labels).map String.toList := by
  cases labels with
  | nil => rfl
  | cons first more =>
    simp only [List.map_cons, withoutWww, afterWww]
    split <;> rfl

theorem afterWww_concat (h : labels ≠ []) (last : String) :
    afterWww (labels ++ [last]) = afterWww labels ++ [last] := by
  cases labels with
  | nil => contradiction
  | cons first more =>
    simp only [List.cons_append, afterWww]
    split <;> rfl

theorem afterWww_sublist (labels : List String) : (afterWww labels).Sublist labels := by
  cases labels with
  | nil => exact List.Sublist.refl []
  | cons first more =>
    rw [afterWww]
    split
    · exact List.sublist_cons_self first more
    · exact List.Sublist.refl _

theorem exists_top (h : 2 ≤ labels.length) : ∃ before top, afterWww labels = before ++ [top] := by
  rcases List.eq_nil_or_concat (afterWww labels) with hn | ⟨before, top, hc⟩
  · match labels, h with
    | first :: second :: more, _ =>
      rw [afterWww] at hn
      split at hn <;> contradiction
  · exact ⟨before, top, by rw [hc, List.concat_eq_append]⟩

theorem stem_concat (before : List String) (top : String) :
    stem (before ++ [top]) = if IsSecondLevel top then before else before ++ [top] := by
  simp [stem, ← isSecondLevel_iff]

theorem exists_stem (labels : List String) : ∃ rest, labels = stem labels ++ rest ∧
    (rest = [] ↔ ∀ second ∈ labels.getLast?, ¬IsSecondLevel second) := by
  rcases List.eq_nil_or_concat labels with rfl | ⟨before, second, rfl⟩
  · exact ⟨[], rfl, by simp⟩
  · rw [List.concat_eq_append, stem_concat]
    by_cases hs : IsSecondLevel second
    · exact ⟨[second], by rw [if_pos hs], by simp [hs]⟩
    · exact ⟨[], by rw [if_neg hs, List.append_nil], by simp [hs]⟩

/-- The top-level domain is the last label, and one of the second level before it. -/
theorem withoutTop_concat (before : List String) (top : String) :
    withoutTop ((before ++ [top]).map String.toList) = (stem before).map String.toList := by
  rcases List.eq_nil_or_concat before with rfl | ⟨before, second, rfl⟩
  · rfl
  · rw [List.concat_eq_append, stem_concat, List.append_assoc, List.cons_append, List.nil_append,
      withoutTop_map_toList]
    simp only [isSecondLevel_iff]

theorem ofValue_of_afterWww (hlength : 2 ≤ labels.length)
    (hdot : ∀ label ∈ labels, '.' ∉ label.toList) (hafter : afterWww labels = before ++ [top])
    (hne : ∀ label ∈ before, label ≠ "") :
    ofValue (.text (dotted labels)) = .ok (.text (unwords (stem before))) := by
  obtain ⟨rest, hrest, -⟩ := exists_stem before
  rw [ofValue_text, if_neg (dotted_ne_empty hlength), ofHost_eq_join,
    names_of_dotted hlength hdot, withoutWww_map_toList, hafter, withoutTop_concat,
    List.filter_eq_self.2, unwords]
  intro piece hp
  obtain ⟨label, hl, rfl⟩ := List.mem_map.1 hp
  simp [hne label (hrest ▸ List.mem_append_left rest hl)]

/-- The name of a site has the labels of its host but for the top-level domain, which is the last
one, together with one of the second level before it. With a dot at the end, the last label is the
empty one after the dot. So the name is the same exactly if the label before the dot is of the
second level, and the one before that is not. -/
theorem ofValue_rooted (hlength : 2 ≤ labels.length)
    (h : ∀ label ∈ labels, label ≠ "" ∧ '.' ∉ label.toList) :
    ofValue (.text (dotted labels ++ ".")) = .ok (.text (unwords (stem (afterWww labels)))) ∧
      ofValue (.text (dotted labels)) = .ok (.text (unwords (stem (afterWww labels).dropLast))) ∧
      (ofValue (.text (dotted labels ++ ".")) = ofValue (.text (dotted labels)) ↔
        (∃ top ∈ (afterWww labels).getLast?, IsSecondLevel top) ∧
          ∀ second ∈ (afterWww labels).dropLast.getLast?, ¬IsSecondLevel second) := by
  obtain ⟨before, top, hafter⟩ := exists_top hlength
  have hlabels : labels ≠ [] := List.ne_nil_of_length_pos (by omega)
  have hne : ∀ label ∈ before ++ [top], label ≠ "" := fun label hl =>
    (h label ((afterWww_sublist labels).mem (hafter ▸ hl))).1
  have hplain : ofValue (.text (dotted labels)) = .ok (.text (unwords (stem before))) :=
    ofValue_of_afterWww hlength (fun label hl => (h label hl).2) hafter
      fun label hl => hne label (List.mem_append_left [top] hl)
  -- the empty label after the dot is the last one here, and `top` stands before it
  have hrooted : ofValue (.text (dotted labels ++ ".")) =
      .ok (.text (unwords (stem (before ++ [top])))) := by
    rw [← dotted_concat_empty hlabels]
    refine ofValue_of_afterWww ?_ ?_ (by rw [afterWww_concat hlabels, hafter]) hne
    · rw [List.length_append]
      omega
    · intro label hl
      rcases List.mem_append.1 hl with hl | hl
      · exact (h label hl).2
      · obtain rfl := List.mem_singleton.1 hl
        simp
  have hlast : (before ++ [top]).getLast? = some top := List.getLast?_concat
  rw [hrooted, hplain, hafter, List.dropLast_concat, hlast]
  refine ⟨rfl, rfl, ?_⟩
  obtain ⟨rest, hrest, hnone⟩ := exists_stem before
  have hwhole : before ++ [top] = stem before ++ (rest ++ [top]) := by
    rw [← List.append_assoc, ← hrest]
  have hmore : ∀ label ∈ rest ++ [top], label ≠ "" := fun label hl =>
    hne label (hwhole ▸ List.mem_append_right _ hl)
  rw [Except.ok.injEq, Value.text.injEq, ← hnone, stem_concat]
  by_cases hs : IsSecondLevel top
  · have hsame : unwords (stem before ++ rest) = unwords (stem before) ↔ rest = [] :=
      unwords_append_eq_iff fun label hl => hmore label (List.mem_append_left [top] hl)
    rw [← hrest] at hsame
    simp [hs, hsame]
  · rw [if_neg hs, hwhole, unwords_append_eq_iff hmore]
    simp [hs]

theorem ofValue_rooted_hosts :
    (∀ label ∈ ["www", "Example", "COM"], label ≠ "" ∧ '.' ∉ label.toList) ∧
      ofValue (.text "www.Example.COM.") = ofValue (.text "www.Example.COM") ∧
      ofValue (.text "www.example.co.uk.") = .ok (.text "example co uk") ∧
      ofValue (.text "shop.co.com.") ≠ ofValue (.text "shop.co.com") := by
  have hone : ∀ label ∈ ["www", "Example", "COM"], label ≠ "" ∧ '.' ∉ label.toList := by decide
  have htwo : ∀ label ∈ ["www", "example", "co", "uk"], label ≠ "" ∧ '.' ∉ label.toList := by
    decide
  have hthree : ∀ label ∈ ["shop", "co", "com"], label ≠ "" ∧ '.' ∉ label.toList := by decide
  obtain ⟨-, -, hsame⟩ := ofValue_rooted (by decide) hone
  obtain ⟨hcountry, -⟩ := ofValue_rooted (by decide) htwo
  obtain ⟨-, -, hdiffer⟩ := ofValue_rooted (by decide) hthree
  refine ⟨hone, hsame.2 ⟨⟨"COM", rfl, by decide⟩, by decide⟩, hcountry, fun he => ?_⟩
  exact (hdiffer.1 he).2 "co" rfl (by decide)

/-- The country is the top-level domain of the one host, and a name of the site of the other. -/
theorem ofValue_rooted_country :
    ofValue (.text "example.de") = .ok (.text "example") ∧
      ofValue (.text "example.de.") = .ok (.text "example de") := by
  constructor <;> rfl

end Provider
end LinkPreview
