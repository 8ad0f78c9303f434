import LinkPreview.Proofs.Rule.Greatest
import LinkPreview.Rule.Parts

/-! The choice among candidates whose scores may be NaN. NaN exceeds no score and is exceeded by
none, so that it settles the choice if the first candidate has it, and is passed over elsewhere. -/
set_option autoImplicit false

namespace LinkPreview.Candidate
variable {score : Scorer} {number : Candidate → Number} {first best : Candidate}
  {earlier later more : List Candidate}

theorem Chosen.of_sublist {fewer rest : List Candidate}
    (h : Chosen number first earlier best later) (hearlier : fewer.Sublist earlier)
    (hlater : rest.Sublist later) : Chosen number first fewer best rest := by
  constructor
  case nan_first =>
    intro hnan
    rw [h.nan_first hnan] at hearlier
    exact List.sublist_nil.1 hearlier
  case leads =>
    intro hne
    exact (h.leads hne).of_sublist hearlier hlater

/-- Candidates that are left out change nothing, but for the first and the one that is chosen. -/
theorem best_of_fewer {fewer rest others : List Candidate} (h : Scored score number (first :: more))
    (hs : first :: more = earlier ++ best :: later) (hc : Chosen number first earlier best later)
    (hothers : first :: others = fewer ++ best :: rest) (hearlier : fewer.Sublist earlier)
    (hlater : rest.Sublist later) :
    Candidate.best score first others = Candidate.best score first more := by
  have hscored : Scored score number (first :: others) := by
    intro c hc
    refine h c ?_
    rw [hothers] at hc
    rw [hs]
    exact (hearlier.append (hlater.cons_cons best)).mem hc
  rw [best_of_chosen h hs hc, best_of_chosen hscored hothers (hc.of_sublist hearlier hlater)]

theorem best_filter {p : Candidate → Bool} (h : Scored score number (first :: more))
    (hs : first :: more = earlier ++ best :: later) (hc : Chosen number first earlier best later)
    (hp : earlier ≠ [] → p best = true) :
    Candidate.best score first (more.filter p) = Candidate.best score first more := by
  cases earlier with
  | nil =>
    obtain ⟨rfl, rfl⟩ := List.cons.inj hs
    exact best_of_fewer h rfl hc (List.nil_append _).symm (List.Sublist.refl []) List.filter_sublist
  | cons c earlier =>
    rw [List.cons_append] at hs
    obtain ⟨rfl, rfl⟩ := List.cons.inj hs
    have hkept : first :: (earlier ++ best :: later).filter p =
        (first :: earlier.filter p) ++ best :: later.filter p := by
      rw [List.filter_append, List.filter_cons_of_pos (hp (List.cons_ne_nil _ _)), List.cons_append]
    exact best_of_fewer h rfl hc hkept (List.filter_sublist.cons_cons first) List.filter_sublist

theorem best_eraseIdx (h : Scored score number (first :: more))
    (hs : first :: more = earlier ++ best :: later) (hc : Chosen number first earlier best later)
    {i : Nat} (hi : i + 1 ≠ earlier.length) :
    Candidate.best score first (more.eraseIdx i) = Candidate.best score first more := by
  have herased : first :: more.eraseIdx i = (earlier ++ best :: later).eraseIdx (i + 1) := by
    rw [← hs, List.eraseIdx_cons_succ]
  rcases Nat.lt_or_gt_of_ne hi with hlt | hgt
  · rw [List.eraseIdx_append_of_lt_length hlt] at herased
    exact best_of_fewer h hs hc herased (List.eraseIdx_sublist _ _) (List.Sublist.refl _)
  · obtain ⟨k, hk⟩ : ∃ k, i + 1 - earlier.length = k + 1 := ⟨i - earlier.length, by omega⟩
    rw [List.eraseIdx_append_of_length_le (Nat.le_of_lt hgt), hk, List.eraseIdx_cons_succ]
      at herased
    exact best_of_fewer h hs hc herased (List.Sublist.refl _) (List.eraseIdx_sublist _ _)

/-- Among scores of any kind, the choice falls on the first candidate if its score is NaN, and
otherwise on the earliest of those with the greatest score that is not NaN. It does not change if
later candidates with NaN are left out, or any one but the first and the one that is chosen. -/
theorem best_of_scored (score : Scorer) (number : Candidate → Number) (first : Candidate)
    (more : List Candidate)
    (h : ∀ c ∈ first :: more, score c.value c.element = .ok (some (number c))) :
    ∃ earlier best later, first :: more = earlier ++ best :: later ∧
      Candidate.best score first more = .ok (best.value, some (number best)) ∧
      (number first = .nan → earlier = []) ∧
      (number first ≠ .nan → ∃ top, (number best).amount? = some top ∧
        (∀ c ∈ earlier, ∀ a ∈ (number c).amount?, a < top) ∧
        ∀ c ∈ later, ∀ a ∈ (number c).amount?, a ≤ top) ∧
      Candidate.best score first (more.filter fun c => number c ≠ .nan) =
        Candidate.best score first more ∧
      ∀ i, i + 1 ≠ earlier.length →
        Candidate.best score first (more.eraseIdx i) = Candidate.best score first more := by
  obtain ⟨earlier, best, later, hs, hc⟩ := exists_chosen number first more
  have hkept : earlier ≠ [] → decide (number best ≠ .nan) = true := fun hne =>
    decide_eq_true (hc.not_nan hs fun hnan => hne (hc.nan_first hnan))
  refine ⟨earlier, best, later, hs, best_of_chosen h hs hc, hc.nan_first, ?_,
    best_filter h hs hc hkept, fun i => best_eraseIdx h hs hc⟩
  intro hne
  obtain ⟨top, htop⟩ :=
    Option.ne_none_iff_exists'.1 (mt Number.amount?_eq_none_iff.1 (hc.not_nan hs hne))
  have hrank : (number best).rank = top := Number.rank_of_amount? htop
  obtain ⟨hearlier, hlater⟩ := hc.leads hne
  refine ⟨top, htop, fun c hmem => ?_, fun c hmem => ?_⟩
  · have hlt : (number c).rank < (number best).rank := hearlier c hmem
    exact Number.rank_lt_iff.1 (hrank ▸ hlt)
  · have hle : (number c).rank ≤ (number best).rank := hlater c hmem
    exact Number.rank_le_iff.1 (hrank ▸ hle)

def oddScores : Scorer :=
  .table [("b", some .nan), ("d", some (.infinite false)), ("e", some (.infinite false))]
    (some (.whole 1))

def oddNumber (c : Candidate) : Number :=
  (oddScores c.value c.element).toOption.join.getD .nan

def named (name : String) : Candidate := ⟨.text name, .document .nil⟩

/-- NaN in the second place does not matter; in the first place it does. -/
theorem best_of_scored_odd :
    (∀ c ∈ [named "a", named "b", named "d", named "e"],
        oddScores c.value c.element = .ok (some (oddNumber c))) ∧
      oddNumber (named "b") = .nan ∧
      Candidate.best oddScores (named "a") [named "b", named "d", named "e"] =
        Candidate.best oddScores (named "a") [named "d", named "e"] ∧
      Candidate.best oddScores (named "b") [named "a", named "d"] = .ok (.text "b", some .nan) := by
  have h : ∀ c ∈ [named "a", named "b", named "d", named "e"],
      oddScores c.value c.element = .ok (some (oddNumber c)) := by
    simp only [List.forall_mem_cons]
    exact ⟨rfl, rfl, rfl, rfl, List.forall_mem_nil _⟩
  have hnan : oddNumber (named "b") = .nan := rfl
  obtain ⟨-, -, -, -, -, -, -, hkept, -⟩ := best_of_scored oddScores oddNumber _ _ h
  obtain ⟨earlier, best, later, hs, hbest, hfirst, -⟩ :=
    best_of_scored oddScores oddNumber (named "b") [named "a", named "d"]
      fun c hc => h c (by simp only [List.mem_cons] at hc ⊢; tauto)
  rw [hfirst hnan] at hs
  obtain ⟨rfl, -⟩ := List.cons.inj hs
  exact ⟨h, hnan, hkept.symm, hbest⟩

end LinkPreview.Candidate
