import LinkPreview.Proofs.Text.Pieces
import LinkPreview.Proofs.Url.Ends

set_option autoImplicit false

namespace LinkPreview.Url
open Text

/-- The folders passed after a further segment. Two dots leave the last one, if there is one, and an
empty segment or a dot stays in it. -/
def enter (outer : List (List Char)) (segment : List Char) : List (List Char) :=
  if segment = ['.', '.'] then outer.dropLast
  else if segment = [] ∨ segment = ['.'] then outer
  else outer ++ [segment]

def folders (x : Url) : List (List Char) := (splitAt '/' x.path).dropLast.foldl enter []

def fileIn (x : Url) (outer : List (List Char)) (name : List Char) : List Char :=
  x.scheme ++ "://".toList ++ x.authority ++ '/' :: join ['/'] (outer ++ [name])

structure IsName (segment : List Char) : Prop where
  not_empty : segment ≠ []
  no_slash : '/' ∉ segment

/-- A name that is read as a path, whatever scheme it is given. -/
structure IsFile (name : List Char) : Prop extends IsName name where
  not_dot : name ≠ ['.']
  not_dots : name ≠ ['.', '.']
  read (scheme : List Char) : Url.read scheme name = .ok ⟨scheme, [], name, [], [], []⟩

/-- A text is read as a URL with an authority that references are resolved against. -/
structure IsBase (text : List Char) (b : Url) : Prop where
  read : Url.read [] text = .ok b
  scheme : b.scheme ≠ []
  relative : schemeIn relativeSchemes b.scheme = true
  authority : b.authority ≠ []

theorem isBase_of_host {text : List Char} {b : Url} (h : read [] text = .ok b)
    (hs : b.scheme = "http".toList ∨ b.scheme = "https".toList) (hhost : b.host? ≠ none) :
    IsBase text b := by
  refine ⟨h, ?_, ?_, ?_⟩
  · rcases hs with hs | hs <;> simp [hs]
  · rcases hs with hs | hs <;> rw [hs] <;> decide
  · intro ha
    refine hhost ?_
    simp [host?, ha, afterLast, before]

section
variable {c : Char} {cs : List Char}

theorem head?_takeAuthority (h : (takeAuthority cs).1 ≠ []) (hc : c ∈ (takeAuthority cs).2.head?) :
    endsAuthority c = true := by
  unfold takeAuthority at h hc
  split at hc
  case h_1 rest =>
    have hstop := List.head?_dropWhile_not (!endsAuthority ·) rest
    rw [Option.mem_def.1 hc] at hstop
    simpa using hstop
  case h_2 hslashes =>
    split at h
    · exact absurd rfl (hslashes _)
    · contradiction

theorem mem_head?_before {sep : Char} (h : c ∈ (before sep cs).head?) :
    c ∈ cs.head? ∧ c ≠ sep := by
  rw [before, List.head?_takeWhile, Option.mem_def, Option.filter_eq_some_iff] at h
  simpa using h

theorem splitParams_initial (path : List Char) : (splitParams path).1 <+: path := by
  unfold splitParams
  dsimp only
  split
  · have hsuffix : afterLast '/' path <:+ path := by
      rw [afterLast, ← List.reverse_prefix, List.reverse_reverse]
      exact List.takeWhile_prefix _
    have hwhole := List.suffix_iff_eq_append.1 hsuffix
    conv => rhs; rw [← hwhole]
    exact (List.prefix_append_right_inj _).2 (List.takeWhile_prefix _)
  · exact List.prefix_refl path

theorem head?_path {scheme text : List Char} {x : Url} (h : read scheme text = .ok x)
    (ha : x.authority ≠ []) (hc : c ∈ x.path.head?) : c = '/' := by
  unfold read at h
  simp only [bind_eq_ok, pure_eq_ok, Except.ok.injEq] at h
  obtain ⟨-, -, -, -, rfl⟩ := h
  dsimp only at ha hc
  have hpath : c ∈ (before '?' (before '#' (takeAuthority
      ((scheme? (clean text)).getD (scheme, clean text)).2).2)).head? := by
    split at hc
    · exact head?_of_initial (splitParams_initial _) c hc
    · exact hc
  obtain ⟨hpath, hquery⟩ := mem_head?_before hpath
  obtain ⟨hpath, hfragment⟩ := mem_head?_before hpath
  have hends := head?_takeAuthority ha hpath
  simpa [endsAuthority, hquery, hfragment] using hends

end

theorem dropEmptyInner_concat (inner : List (List Char)) (last : List Char) :
    dropEmptyInner (inner ++ [last]) = inner.filter (!·.isEmpty) ++ [last] := by
  induction inner with
  | nil => rfl
  | cons segment more ih =>
    obtain ⟨next, rest, hnext⟩ : ∃ next rest, more ++ [last] = next :: rest :=
      List.exists_cons_of_ne_nil (by simp)
    rw [List.cons_append, hnext, dropEmptyInner, ← hnext, ih, List.filter_cons]
    cases segment <;> rfl

theorem exists_splitAt_rooted {path : List Char} (h : ∀ c ∈ path.head?, c = '/') :
    ∃ more, splitAt '/' path = [] :: more := by
  cases path with
  | nil => exact ⟨[], rfl⟩
  | cons c cs =>
    obtain rfl := h c rfl
    exact ⟨splitAt '/' cs, splitAt_append_sep '/' [] cs⟩

theorem head?_ne_slash {name : List Char} (h : IsName name) : name.head? ≠ some '/' :=
  fun hs => h.no_slash (List.mem_of_head? hs)

theorem segments_rooted {path name : List Char} (hpath : ∀ c ∈ path.head?, c = '/')
    (hname : IsName name) :
    segments path name =
      [] :: ((splitAt '/' path).dropLast.filter (!·.isEmpty) ++ [name]) := by
  obtain ⟨more, hmore⟩ := exists_splitAt_rooted hpath
  unfold segments
  dsimp only
  rw [if_neg (head?_ne_slash hname), splitAt_of_not_mem hname.no_slash]
  generalize hfolder : (if (splitAt '/' path).getLastD [] = [] then splitAt '/' path
    else (splitAt '/' path).dropLast) = folder
  -- a last piece that is empty is left out with the other empty ones
  obtain ⟨inner, rfl, hinner⟩ : ∃ inner, folder = [] :: inner ∧
      inner.filter (!·.isEmpty) = (splitAt '/' path).dropLast.filter (!·.isEmpty) := by
    rw [← hfolder, hmore]
    rcases List.eq_nil_or_concat more with rfl | ⟨before, last, rfl⟩
    · exact ⟨[], rfl, rfl⟩
    · rw [List.concat_eq_append, ← List.cons_append, List.getLastD_concat, List.dropLast_concat]
      split
      case isTrue hempty =>
        exact ⟨before ++ [last], rfl, by simp [hempty]⟩
      case isFalse => exact ⟨before, rfl, by simp⟩
  rw [← hinner, ← dropEmptyInner_concat]
  rfl

/-- What stands in front of the folders on a walk: an empty segment, unless the walk has left it. -/
def IsRoot (root : List (List Char)) : Prop := root = [] ∨ root = [[]]

theorem IsRoot.dropLast {root : List (List Char)} (h : IsRoot root) : IsRoot root.dropLast := by
  rcases h with rfl | rfl <;> exact .inl rfl

theorem walk_concat {name : List Char} (hname : IsFile name) {root : List (List Char)}
    (hroot : IsRoot root) (outer inner : List (List Char)) :
    ∃ left, IsRoot left ∧
      walk (root ++ outer).reverse (inner.filter (!·.isEmpty) ++ [name]) =
        left ++ (inner.foldl enter outer ++ [name]) := by
  -- the walk keeps its segments in reverse order: the folders entered so far, and the root behind
  induction inner generalizing root outer with
  | nil => exact ⟨root, hroot, by simp [walk, hname.not_dot, hname.not_dots]⟩
  | cons segment more ih =>
    rw [List.foldl_cons, enter]
    by_cases hempty : segment = []
    · subst hempty
      exact ih hroot outer
    rw [List.filter_cons_of_pos (by simpa using hempty), List.cons_append, walk]
    by_cases hdots : segment = ['.', '.']
    · rw [if_pos hdots, if_pos hdots, List.tail_reverse]
      rcases List.eq_nil_or_concat outer with rfl | ⟨before, last, rfl⟩
      · -- with no folder to leave, the root itself is left
        rw [List.append_nil, ← List.append_nil root.dropLast]
        exact ih hroot.dropLast []
      · rw [List.concat_eq_append, ← List.append_assoc, List.dropLast_concat,
          List.dropLast_concat]
        exact ih hroot before
    rw [if_neg hdots, if_neg hdots]
    by_cases hdot : segment = ['.']
    · rw [if_pos hdot, if_pos (.inr hdot)]
      exact ih hroot outer
    · rw [if_neg hdot, if_neg (by simp [hempty, hdot])]
      have hpassed :
          segment :: (root ++ outer).reverse = (root ++ (outer ++ [segment])).reverse := by simp
      rw [hpassed]
      exact ih hroot (outer ++ [segment])

theorem mem_enter {outer : List (List Char)} {segment folder : List Char}
    (h : folder ∈ enter outer segment) : folder ∈ outer ∨ folder = segment ∧ segment ≠ [] := by
  unfold enter at h
  split at h
  · exact .inl ((List.dropLast_sublist outer).subset h)
  · split at h
    · exact .inl h
    · rename_i hplain
      rcases List.mem_append.1 h with ho | hs
      · exact .inl ho
      · exact .inr ⟨List.mem_singleton.1 hs, fun he => hplain (.inl he)⟩

theorem isName_of_mem_foldl {inner outer : List (List Char)} (ho : ∀ f ∈ outer, IsName f)
    (hi : ∀ segment ∈ inner, '/' ∉ segment) : ∀ f ∈ inner.foldl enter outer, IsName f := by
  induction inner generalizing outer with
  | nil => exact ho
  | cons segment more ih =>
    rw [List.forall_mem_cons] at hi
    refine ih (fun f hf => ?_) hi.2
    rcases mem_enter hf with hf | ⟨rfl, hne⟩
    · exact ho f hf
    · exact ⟨hne, hi.1⟩

theorem isName_of_mem_folders (x : Url) : ∀ f ∈ x.folders, IsName f := by
  refine isName_of_mem_foldl (by simp) fun segment hs hslash => ?_
  exact (mem_splitAt_iff.1 ⟨segment, (List.dropLast_sublist _).subset hs, hslash⟩).2 rfl

theorem isName_concat {files : List (List Char)} {name : List Char} (h : ∀ f ∈ files, IsName f)
    (hname : IsName name) : ∀ f ∈ files ++ [name], IsName f := by
  intro f hf
  rcases List.mem_append.1 hf with hf | hf
  · exact h f hf
  · exact List.mem_singleton.1 hf ▸ hname

theorem exists_head?_join {files : List (List Char)} (hne : files ≠ [])
    (h : ∀ f ∈ files, IsName f) : ∃ c ∈ (join ['/'] files).head?, c ≠ '/' := by
  cases files with
  | nil => contradiction
  | cons first more =>
    have hfirst := h first List.mem_cons_self
    obtain ⟨c, cs, rfl⟩ := List.exists_cons_of_ne_nil hfirst.not_empty
    refine ⟨c, ?_, fun he => hfirst.no_slash (he ▸ List.mem_cons_self)⟩
    cases more with
    | nil => rfl
    | cons next more =>
      rw [join_cons _ _ _ (List.cons_ne_nil _ _)]
      rfl

/-- A path from the root is written in the same way if the walk has left the root. -/
theorem writeHierarchy_join {authority : List Char} (ha : authority ≠ []) (scheme : List Char)
    {left files : List (List Char)} (hleft : IsRoot left) (hne : files ≠ [])
    (hfiles : ∀ f ∈ files, IsName f) :
    writeHierarchy scheme authority (join ['/'] (left ++ files)) =
      "//".toList ++ authority ++ '/' :: join ['/'] files := by
  have hopen : (!authority.isEmpty) = true := by simpa using ha
  rw [writeHierarchy, hopen, Bool.true_or, if_pos rfl]
  rcases hleft with rfl | rfl
  · obtain ⟨c, hc, hslash⟩ := exists_head?_join hne hfiles
    rw [List.nil_append, List.eq_cons_of_mem_head? hc]
    simp [hslash]
  · rw [List.singleton_append, join_cons _ _ _ hne]
    rfl

section
variable {b : Url} {name : List Char}

theorem resolvePath_name (hpath : ∀ c ∈ b.path.head?, c = '/') (hname : IsFile name) :
    ∃ left, IsRoot left ∧
      resolvePath b.path name = join ['/'] (left ++ (b.folders ++ [name])) := by
  obtain ⟨left, hleft, hwalk⟩ :=
    walk_concat hname (.inr rfl) [] (splitAt '/' b.path).dropLast
  refine ⟨left, hleft, ?_⟩
  have hall : (segments b.path name).getLastD [] = name := by
    rw [segments_rooted hpath hname.toIsName, ← List.cons_append, List.getLastD_concat]
  have hwalked : walk [] (segments b.path name) = left ++ (b.folders ++ [name]) := by
    rw [segments_rooted hpath hname.toIsName]
    exact hwalk
  unfold resolvePath
  dsimp only
  rw [hall, hwalked]
  simp only [hname.not_dot, hname.not_dots, decide_false, Bool.or_false, Bool.false_eq_true,
    if_false]
  refine if_neg ?_
  rw [List.isEmpty_iff, ← List.getLast?_eq_none_iff, ← List.append_assoc, getLast?_join]
  simp [hname.not_empty]

/-- A name stands in the folder of the URL that it is resolved against. -/
theorem IsBase.absolute {text : List Char} (h : IsBase text b) (hname : IsFile name) :
    Url.absolute text name = .ok (b.fileIn b.folders name) := by
  have hne : text ≠ [] := by
    rintro rfl
    exact List.not_mem_nil (colon_mem_of_hasScheme ((hasScheme_iff h.read).2 h.scheme))
  have hjoins : Joins text name b ⟨b.scheme, [], name, [], [], []⟩ :=
    ⟨h.read, hname.read b.scheme, rfl, h.relative⟩
  have hjoin : Url.absolute text name = .ok (resolve b ⟨b.scheme, [], name, [], [], []⟩).write := by
    rw [Url.absolute, hname.read [], ok_bind, if_neg (by simpa using hne), joinTo,
      if_neg (by simpa using hne), if_neg (by simpa using hname.not_empty), h.read, ok_bind,
      hname.read, ok_bind, if_neg (by simp [h.relative])]
    rfl
  have hrooted : ∀ c ∈ b.path.head?, c = '/' := fun c hc => head?_path h.read h.authority hc
  obtain ⟨left, hleft, hpath⟩ := resolvePath_name hrooted hname
  have hfiles := isName_concat (isName_of_mem_folders b) hname.toIsName
  rw [hjoin, resolve_of_path hjoins.authority rfl (by simp [hname.not_empty]), hpath]
  simp only [write, marked, List.isEmpty_nil, if_true, List.append_nil]
  rw [writeHierarchy_join h.authority b.scheme hleft (by simp) hfiles]
  simp [h.scheme, fileIn]

theorem fileIn_inj {x y : Url} {fs gs : List (List Char)} (hs : x.scheme = y.scheme)
    (ha : x.authority = y.authority) (hname : IsName name) (hf : ∀ f ∈ fs, IsName f)
    (hg : ∀ f ∈ gs, IsName f) : x.fileIn fs name = y.fileIn gs name ↔ fs = gs := by
  constructor
  · intro h
    have hjoin : join ['/'] (fs ++ [name]) = join ['/'] (gs ++ [name]) := by
      simpa [fileIn, hs, ha] using h
    have hsplit : ∀ files, (∀ f ∈ files, IsName f) →
        splitAt '/' (join ['/'] (files ++ [name])) = files ++ [name] := by
      intro files hfiles
      exact splitAt_join (by simp) fun piece hp => (isName_concat hfiles hname piece hp).no_slash
    have hlists := congrArg (splitAt '/') hjoin
    rw [hsplit fs hf, hsplit gs hg] at hlists
    exact List.append_cancel_right hlists
  · rintro rfl
    rw [fileIn, fileIn, hs, ha]

end
end LinkPreview.Url
