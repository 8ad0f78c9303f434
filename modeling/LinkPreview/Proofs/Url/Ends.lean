import LinkPreview.Proofs.Url.Absolute

/-! Where a URL ends when it is written. Marks are left out before empty parts, so it ends with
the last part that is not empty. -/
set_option autoImplicit false

namespace LinkPreview

namespace Text

theorem getLast?_join (sep : Char) (before : List (List Char)) (last : List Char) :
    (join [sep] (before ++ [last])).getLast? =
      last.getLast?.or (if before = [] then none else some sep) := by
  induction before with
  | nil => simp [join]
  | cons piece before ih =>
    have hends : (piece ++ [sep]).getLast? = some sep := List.getLast?_concat
    rw [List.cons_append, join_cons _ _ _ (by simp), List.getLast?_append, ih, hends,
      Option.or_assoc]
    split <;> rfl

theorem eq_or_mem_of_getLast?_join {sep c : Char} {before : List (List Char)} {last : List Char}
    (h : (join [sep] (before ++ [last])).getLast? = some c) : c = sep ∨ c ∈ last.getLast? := by
  rw [getLast?_join] at h
  rcases Option.or_eq_some_iff.1 h with h | ⟨-, h⟩
  · exact .inr h
  · split at h
    · contradiction
    · exact .inl (Option.some.inj h).symm

end Text

namespace Url
open Text

def body (x : Url) : List Char := x.authority ++ x.path ++ x.params ++ x.query ++ x.fragment

theorem getLast?_marked (mark : Char) (part : List Char) :
    (marked mark part).getLast? = part.getLast? := by
  cases part with
  | nil => rfl
  | cons c cs => exact List.getLast?_cons_cons

theorem getLast?_writeHierarchy (scheme authority path : List Char) :
    ∃ rest, (∀ c ∈ rest, c = '/') ∧ (writeHierarchy scheme authority path).getLast? =
      path.getLast?.or (authority.getLast?.or rest) := by
  unfold writeHierarchy
  split
  case isTrue =>
    refine ⟨some '/', by simp, ?_⟩
    have hpath : (if path.isEmpty || path.head? = some '/' then path else '/' :: path).getLast? =
        path.getLast? := by
      split
      case isTrue => rfl
      case isFalse hne =>
        cases path with
        | nil => simp at hne
        | cons c cs => exact List.getLast?_cons_cons
    have hauthority : ('/' :: '/' :: authority).getLast? = authority.getLast?.or (some '/') := by
      cases authority with
      | nil => rfl
      | cons c cs => simp [List.getLast?_cons]
    simp only [List.getLast?_append, hpath, hauthority]
  case isFalse hne =>
    have hauthority : authority = [] := by
      simp only [Bool.or_eq_true, not_or, Bool.not_eq_true', Bool.not_eq_false,
        List.isEmpty_iff] at hne
      exact hne.1
    exact ⟨none, by simp, by simp [hauthority]⟩

/-- A URL that has any part after its scheme ends with the last of them. -/
theorem getLast?_write (x : Url) :
    ∃ rest, (∀ c ∈ rest, c = '/' ∨ c = ':') ∧ x.write.getLast? = x.body.getLast?.or rest := by
  obtain ⟨rest, hrest, hlast⟩ :=
    getLast?_writeHierarchy x.scheme x.authority (x.path ++ marked ';' x.params)
  refine ⟨rest.or (if x.scheme.isEmpty then [] else x.scheme ++ [':']).getLast?, ?_, ?_⟩
  · intro c hc
    rcases Option.or_eq_some_iff.1 hc with hc | ⟨-, hc⟩
    · exact .inl (hrest c hc)
    · refine .inr ?_
      split at hc
      · contradiction
      · simpa [eq_comm] using hc
  · simp only [write, body, List.getLast?_append, getLast?_marked, hlast, Option.or_assoc]

theorem head?_write_of_scheme {x : Url} (h : x.scheme ≠ []) :
    x.write.head? = x.scheme.head? := by
  cases hs : x.scheme with
  | nil => contradiction
  | cons c cs => simp [write, hs]

theorem head?_write {x : Url} (h : x.scheme = []) :
    (∀ c ∈ x.write.head?, isBlank c = false) ↔
      (x.authority = [] → ∀ c ∈ x.path.head?, isBlank c = false) := by
  by_cases ha : x.authority = []
  · cases hp : x.path with
    | nil =>
      have hwrite : x.write = marked ';' x.params ++ marked '?' x.query ++
          marked '#' x.fragment := by
        simp [write, writeHierarchy, h, ha, hp]
      have hmarks : ∀ c ∈ x.write.head?, c = ';' ∨ c = '?' ∨ c = '#' := by
        rw [hwrite]
        unfold marked
        cases x.params <;> cases x.query <;> cases x.fragment <;> simp
      refine iff_of_true ?_ (by simp)
      intro c hc
      rcases hmarks c hc with rfl | rfl | rfl <;> decide
    | cons c cs => simp [write, writeHierarchy, h, ha, hp]
  · have hhead : x.write.head? = some '/' := by simp [write, writeHierarchy, h, ha]
    simp [hhead, ha, show isBlank '/' = false by decide]

/-- Neither end of a URL is blank when it is written. -/
structure Bare (x : Url) : Prop where
  head : x.scheme = [] → x.authority = [] → ∀ c ∈ x.path.head?, isBlank c = false
  last : ∀ c ∈ x.body.getLast?, isBlank c = false

theorem trim_write_iff {x : Url} (hs : ∀ c ∈ x.scheme.head?, isBlank c = false) :
    trim x.write = x.write ↔ x.Bare := by
  have hhead : (∀ c ∈ x.write.head?, isBlank c = false) ↔
      (x.scheme = [] → x.authority = [] → ∀ c ∈ x.path.head?, isBlank c = false) := by
    by_cases hscheme : x.scheme = []
    · rw [head?_write hscheme]
      exact ⟨fun h _ => h, fun h => h hscheme⟩
    · rw [head?_write_of_scheme hscheme]
      exact iff_of_true hs fun h => absurd h hscheme
  have hlast : (∀ c ∈ x.write.getLast?, isBlank c = false) ↔
      ∀ c ∈ x.body.getLast?, isBlank c = false := by
    obtain ⟨rest, hrest, hl⟩ := getLast?_write x
    rw [hl]
    cases x.body.getLast? with
    | some c => rfl
    | none =>
      refine iff_of_true ?_ (by simp)
      intro c hc
      rcases hrest c hc with rfl | rfl <;> decide
  rw [trim_eq_self_iff, hhead, hlast]
  exact ⟨fun h => ⟨h.1, h.2⟩, fun h => ⟨h.head, h.last⟩⟩

theorem getLast?_dropEmptyInner (segments : List (List Char)) :
    (dropEmptyInner segments).getLast? = segments.getLast? := by
  induction segments with
  | nil => rfl
  | cons segment more ih =>
    cases more with
    | nil => rfl
    | cons next more =>
      rw [List.getLast?_cons_cons, ← ih, dropEmptyInner]
      split
      · rfl
      · rw [List.getLast?_cons, ih, List.getLast?_cons]
        rfl

theorem getLast?_segments (base path : List Char) :
    (segments base path).getLast? = (splitAt '/' path).getLast? := by
  unfold segments
  split
  · rfl
  · generalize hfolder : (if (splitAt '/' base).getLastD [] = [] then splitAt '/' base
      else (splitAt '/' base).dropLast) = folder
    have hall : (folder ++ splitAt '/' path).getLast? = (splitAt '/' path).getLast? := by
      simp [List.getLast?_append, splitAt, pieces, List.getLast?_cons]
    rw [← hall]
    dsimp only
    rw [hfolder]
    cases folder ++ splitAt '/' path with
    | nil => rfl
    | cons first more =>
      show (first :: dropEmptyInner more).getLast? = _
      rw [List.getLast?_cons, getLast?_dropEmptyInner, List.getLast?_cons]

theorem getLast?_walk {segments : List (List Char)} {last : List Char}
    (h : segments.getLast? = some last) (hone : last ≠ ['.']) (htwo : last ≠ ['.', '.'])
    (passed : List (List Char)) : (walk passed segments).getLast? = some last := by
  induction segments generalizing passed with
  | nil => contradiction
  | cons segment more ih =>
    cases more with
    | nil =>
      obtain rfl : segment = last := by simpa using h
      simp [walk, hone, htwo]
    | cons next more =>
      rw [List.getLast?_cons_cons] at h
      unfold walk
      split
      · exact ih h _
      · split <;> exact ih h _

theorem exists_last_splitAt (path : List Char) :
    ∃ last, (splitAt '/' path).getLast? = some last ∧ ∀ c ∈ last.getLast?, c ∈ path.getLast? := by
  obtain ⟨last, hlast⟩ : ∃ last, (splitAt '/' path).getLast? = some last :=
    ⟨_, List.getLast?_cons⟩
  refine ⟨last, hlast, ?_⟩
  intro c hc
  obtain ⟨before, hsplit⟩ := List.getLast?_eq_some_iff.1 hlast
  have hjoin := join_splitAt '/' path
  rw [hsplit] at hjoin
  rw [← hjoin, getLast?_join, Option.mem_def.1 hc]
  rfl

/-- A path ends as its reference does, or with a slash. -/
theorem exists_last_resolvePath (base path : List Char) :
    ∃ c, (resolvePath base path).getLast? = some c ∧ (c = '/' ∨ c ∈ path.getLast?) := by
  obtain ⟨last, hlast, hpath⟩ := exists_last_splitAt path
  have hall : (segments base path).getLast? = some last := by rw [getLast?_segments, hlast]
  have hlastD : (segments base path).getLastD [] = last := by
    rw [List.getLastD_eq_getLast?, hall]
    rfl
  unfold resolvePath
  dsimp only
  rw [hlastD]
  generalize hwalked : (if decide (last = ['.']) || decide (last = ['.', '.']) then
    walk [] (segments base path) ++ [[]] else walk [] (segments base path)) = walked
  -- after dots comes an empty segment, and every other last segment is kept
  have hends : ∃ before ending, walked = before ++ [ending] ∧
      ∀ c ∈ ending.getLast?, c ∈ path.getLast? := by
    rw [← hwalked]
    split
    case isTrue => exact ⟨_, [], rfl, by simp⟩
    case isFalse hdots =>
      simp only [Bool.or_eq_true, decide_eq_true_eq, not_or] at hdots
      obtain ⟨before, hbefore⟩ :=
        List.getLast?_eq_some_iff.1 (getLast?_walk hall hdots.1 hdots.2 [])
      exact ⟨before, last, hbefore, hpath⟩
  obtain ⟨before, ending, rfl, hending⟩ := hends
  split
  case isTrue => exact ⟨'/', rfl, .inl rfl⟩
  case isFalse hne =>
    cases hc : (join ['/'] (before ++ [ending])).getLast? with
    | none => exact absurd (List.isEmpty_iff.2 (List.getLast?_eq_none_iff.1 hc)) hne
    | some c =>
      exact ⟨c, rfl, (eq_or_mem_of_getLast?_join hc).imp_right (hending c)⟩

theorem getLast?_body (x : Url) :
    x.body.getLast? = (x.params ++ x.query ++ x.fragment).getLast?.or
      (x.path.getLast?.or x.authority.getLast?) := by
  simp only [body, List.getLast?_append, Option.or_assoc]

section
variable {b u : Url} (hs : schemeIn authoritySchemes u.scheme = true)
include hs

theorem resolve_of_authority (ha : u.authority ≠ []) : resolve b u = u := by
  simp [resolve, hs, ha]

theorem resolve_of_no_path (ha : u.authority = []) (hp : u.path = [] ∧ u.params = []) :
    resolve b u = { u with
      authority := b.authority, path := b.path, params := b.params
      query := if u.query.isEmpty then b.query else u.query } := by
  simp [resolve, hs, ha, hp]

theorem resolve_of_path (ha : u.authority = []) (hp : ¬ (u.path = [] ∧ u.params = [])) :
    resolve b u =
      { u with authority := b.authority, path := resolvePath b.path u.path } := by
  simp [resolve, hs, ha, hp]

/-- A reference with any part after its scheme brings its end along, or a slash. -/
theorem getLast?_resolve (hne : u.body ≠ []) :
    ∀ c ∈ (resolve b u).body.getLast?, c = '/' ∨ c ∈ u.body.getLast? := by
  intro c hc
  by_cases ha : u.authority = []
  · by_cases hp : u.path = [] ∧ u.params = []
    · refine .inr ?_
      rw [resolve_of_no_path hs ha hp, body] at hc
      have hbody : u.body = u.query ++ u.fragment := by simp [body, ha, hp]
      rw [hbody] at hne ⊢
      -- a reference without a query gets that of the base, but then it ends with its fragment
      by_cases hq : u.query = []
      · have hfragment : u.fragment ≠ [] := by simpa [hq] using hne
        rw [List.getLast?_append_of_ne_nil _ hfragment] at hc
        simpa [hq] using hc
      · simp only [List.isEmpty_iff, hq, if_false] at hc
        rwa [List.append_assoc, List.getLast?_append_of_ne_nil _ hne] at hc
    · obtain ⟨last, hlast, hends⟩ := exists_last_resolvePath b.path u.path
      rw [resolve_of_path hs ha hp, getLast?_body] at hc
      dsimp only at hc
      rw [getLast?_body]
      cases hrest : (u.params ++ u.query ++ u.fragment).getLast? with
      | some d =>
        rw [hrest] at hc
        exact .inr hc
      | none =>
        rw [hrest, hlast] at hc
        obtain rfl : last = c := Option.some.inj hc
        refine hends.imp_right fun hpath => ?_
        rw [Option.mem_def.1 hpath]
        rfl
  · rw [resolve_of_authority hs ha] at hc
    exact .inr hc

end

theorem isBlank_of_isSchemeChar {c : Char} (h : isSchemeChar c = true) : isBlank c = false := by
  have hall : ∀ n < 128, isSchemeChar (Char.ofNat n) = true → isBlank (Char.ofNat n) = false := by
    decide
  exact of_ascii (P := fun c => isSchemeChar c = true → isBlank c = false) hall
    (lt_of_isSchemeChar h) h

theorem head?_scheme {text : List Char} {x : Url} (h : read [] text = .ok x) :
    ∀ c ∈ x.scheme.head?, isBlank c = false := by
  rw [scheme_of_read h]
  intro c hc
  cases hs : schemeOf? text with
  | none => simp [hs] at hc
  | some name =>
    rw [hs] at hc
    exact isBlank_of_isSchemeChar ((isScheme_of_schemeOf? hs).signs c (List.mem_of_head? hc))

theorem Joins.trim_iff {base reference : List Char} {b u : Url} (h : Joins base reference b u) :
    trim (resolve b u).write = (resolve b u).write ↔ (resolve b u).Bare := by
  refine trim_write_iff ?_
  rw [resolve_scheme, h.scheme]
  exact head?_scheme h.base

theorem relative_authority : ∀ scheme ∈ relativeSchemes, scheme ∈ authoritySchemes := by decide

theorem Joins.authority {base reference : List Char} {b u : Url} (h : Joins base reference b u) :
    schemeIn authoritySchemes u.scheme = true := by
  have hrelative := h.relative
  simp only [schemeIn, List.contains_iff_mem] at hrelative ⊢
  exact relative_authority _ hrelative

/-- Against a base with a scheme, a reference that does not end in a blank part does not become
one that does. -/
theorem Joins.bare {base reference : List Char} {b u : Url} (h : Joins base reference b u)
    (hb : b.scheme ≠ []) (hne : u.body ≠ []) (hlast : ∀ c ∈ u.body.getLast?, isBlank c = false) :
    (resolve b u).Bare := by
  constructor
  case head =>
    intro hscheme
    rw [resolve_scheme, h.scheme] at hscheme
    exact absurd hscheme hb
  case last =>
    intro c hc
    rcases getLast?_resolve h.authority hne c hc with rfl | hu
    · decide
    · exact hlast c hu

theorem mem_write_of_mem_path {x : Url} {c : Char} (h : c ∈ x.path) : c ∈ x.write := by
  have hhierarchy : c ∈ writeHierarchy x.scheme x.authority (x.path ++ marked ';' x.params) := by
    unfold writeHierarchy
    split
    · dsimp only
      split <;> simp [h]
    · exact List.mem_append_left _ h
  rw [write, List.append_assoc, List.append_assoc]
  exact List.mem_append_right _ (List.mem_append_left _ hhierarchy)

theorem Joins.not_blank {base reference : List Char} {b u : Url} (h : Joins base reference b u)
    (ha : u.authority = []) (hne : u.path ≠ []) (hp : ∀ c ∈ u.path.getLast?, isBlank c = false) :
    ∃ c ∈ (resolve b u).write, isBlank c = false := by
  obtain ⟨c, hc, hends⟩ := exists_last_resolvePath b.path u.path
  have hpath : c ∈ (resolve b u).path := by
    rw [resolve_of_path h.authority ha fun hnone => hne hnone.1]
    exact List.mem_of_getLast? hc
  refine ⟨c, mem_write_of_mem_path hpath, ?_⟩
  rcases hends with rfl | hmem
  · decide
  · exact hp c hmem

end Url
end LinkPreview
