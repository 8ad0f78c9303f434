import LinkPreview.Text.Pieces

set_option autoImplicit false

namespace LinkPreview.Text
variable {sep : Char} {piece : List Char} {pieces : List (List Char)}

/-- A cut at a separator is also one between all that comes before and all that comes after. -/
theorem pieces_append {p : Char → Bool} {c : Char} (h : p c = true) (before after : List Char) :
    Text.pieces p (before ++ c :: after) = Text.pieces p before ++ Text.pieces p after := by
  induction before with
  | nil => simp [Text.pieces, cut, h]
  | cons d before ih =>
    obtain ⟨hhead, hmore⟩ := List.cons.inj ih
    by_cases hd : p d = true
    · simp [Text.pieces, cut, hd, hhead, hmore]
    · simp [Text.pieces, cut, hd, hhead, hmore]

theorem splitAt_append_sep (sep : Char) (before after : List Char) :
    splitAt sep (before ++ sep :: after) = splitAt sep before ++ splitAt sep after :=
  pieces_append (by simp) before after

theorem splitAt_of_not_mem (h : sep ∉ piece) : splitAt sep piece = [piece] := by
  induction piece with
  | nil => rfl
  | cons c cs ih =>
    obtain ⟨hc, hcs⟩ := List.ne_and_not_mem_of_not_mem_cons h
    obtain ⟨hhead, hmore⟩ := List.cons.inj (ih hcs)
    simp [splitAt, Text.pieces, cut, hhead, hmore, Ne.symm hc]

theorem splitAt_append (h : sep ∉ piece) (rest : List Char) :
    splitAt sep (piece ++ sep :: rest) = piece :: splitAt sep rest := by
  rw [splitAt_append_sep, splitAt_of_not_mem h, List.singleton_append]

theorem cut_map {p : Char → Bool} {f : Char → Char} (h : ∀ c, p (f c) = p c) (cs : List Char) :
    cut p (cs.map f) = ((cut p cs).1.map f, (cut p cs).2.map (List.map f)) := by
  induction cs with
  | nil => rfl
  | cons c cs ih =>
    by_cases hc : p c = true
    · simp [cut, h, ih, hc]
    · simp [cut, h, ih, hc]

theorem pieces_map {p : Char → Bool} {f : Char → Char} (h : ∀ c, p (f c) = p c) (cs : List Char) :
    Text.pieces p (cs.map f) = (Text.pieces p cs).map (List.map f) := by
  rw [Text.pieces, cut_map h]
  rfl

theorem flatten_pieces (p : Char → Bool) (cs : List Char) :
    (Text.pieces p cs).flatten = cs.filter (!p ·) := by
  induction cs with
  | nil => rfl
  | cons c cs ih =>
    simp only [Text.pieces, List.flatten_cons] at ih
    by_cases h : p c = true
    · simp [Text.pieces, cut, h, ih]
    · simp [Text.pieces, cut, h, ih]

theorem mem_splitAt_iff {c : Char} {cs : List Char} :
    (∃ piece ∈ splitAt sep cs, c ∈ piece) ↔ c ∈ cs ∧ c ≠ sep := by
  rw [← List.mem_flatten, splitAt, flatten_pieces]
  simp

theorem join_eq_intercalate (sep : List Char) (pieces : List (List Char)) :
    join sep pieces = sep.intercalate pieces := by
  induction pieces with
  | nil => rfl
  | cons piece more ih =>
    cases more with
    | nil => simp [join]
    | cons next more => rw [join, ih, List.intercalate_cons_cons]

theorem join_append {sep : List Char} {before after : List (List Char)} (hb : before ≠ [])
    (ha : after ≠ []) : join sep (before ++ after) = join sep before ++ sep ++ join sep after := by
  induction before with
  | nil => contradiction
  | cons piece more ih =>
    rw [List.cons_append, join_cons _ _ _ (by simp [ha])]
    cases more with
    | nil => rfl
    | cons next more =>
      rw [ih (List.cons_ne_nil _ _), join_cons _ _ _ (List.cons_ne_nil _ _)]
      simp only [List.append_assoc]

theorem splitAt_join (hne : pieces ≠ []) (h : ∀ piece ∈ pieces, sep ∉ piece) :
    splitAt sep (join [sep] pieces) = pieces := by
  induction pieces with
  | nil => contradiction
  | cons piece more ih =>
    rw [List.forall_mem_cons] at h
    cases more with
    | nil => exact splitAt_of_not_mem h.1
    | cons next more =>
      rw [join_cons _ _ _ (by simp), List.append_assoc, List.singleton_append,
        splitAt_append h.1, ih (by simp) h.2]

theorem sep_mem_join {next : List Char} : sep ∈ join [sep] (piece :: next :: pieces) := by
  rw [join_cons _ _ _ (by simp)]
  simp

def dotted (names : List String) : String :=
  String.ofList (join ['.'] (names.map String.toList))

variable {name : String} {names others : List String}

theorem toList_dotted (names : List String) :
    (dotted names).toList = join ['.'] (names.map String.toList) := String.toList_ofList

@[simp] theorem dotted_singleton (name : String) : dotted [name] = name := by
  rw [← String.toList_inj, toList_dotted]
  rfl

theorem dotted_cons (h : names ≠ []) : dotted (name :: names) = name ++ "." ++ dotted names := by
  rw [← String.toList_inj, toList_dotted, List.map_cons, join_cons _ _ _ (by simpa using h)]
  simp [toList_dotted]

theorem dot_mem_dotted (h : 2 ≤ names.length) : '.' ∈ (dotted names).toList := by
  rw [toList_dotted]
  match names, h with
  | _ :: _ :: _, _ => exact sep_mem_join

theorem splitAt_dotted (hne : names ≠ []) (h : ∀ name ∈ names, '.' ∉ name.toList) :
    splitAt '.' (dotted names).toList = names.map String.toList := by
  rw [toList_dotted]
  refine splitAt_join (by simpa using hne) ?_
  intro piece hp
  obtain ⟨name, hn, rfl⟩ := List.mem_map.1 hp
  exact h name hn

theorem dotted_inj (hne : names ≠ []) (hne' : others ≠ []) (h : ∀ name ∈ names, '.' ∉ name.toList)
    (h' : ∀ name ∈ others, '.' ∉ name.toList) : dotted names = dotted others ↔ names = others := by
  refine ⟨fun he => ?_, fun he => he ▸ rfl⟩
  have hcut : splitAt '.' (dotted names).toList = splitAt '.' (dotted others).toList := by rw [he]
  rw [splitAt_dotted hne h, splitAt_dotted hne' h'] at hcut
  exact (List.map_inj_right fun _ _ => String.toList_inj.1).1 hcut

theorem eq_singleton_of_dotted (hne : names ≠ []) (h : dotted names = name)
    (hname : '.' ∉ name.toList) : names = [name] := by
  cases names with
  | nil => contradiction
  | cons first more =>
    cases more with
    | nil => rw [← h, dotted_singleton]
    | cons next more =>
      rw [← h] at hname
      exact absurd (dot_mem_dotted (by simp)) hname

end LinkPreview.Text
