import LinkPreview.Proofs.Number.Order
import LinkPreview.Proofs.Outcome
import LinkPreview.Rule.Matcher

set_option autoImplicit false

namespace LinkPreview.Candidate

section
variable {β : Type} [LinearOrder β] {amount : Candidate → β} {best : Candidate}
  {earlier later cs : List Candidate}

/-- A candidate of more than those before it, and of no less than those after it. -/
def Leads (amount : Candidate → β) (earlier : List Candidate) (best : Candidate)
    (later : List Candidate) : Prop :=
  (∀ c ∈ earlier, amount c < amount best) ∧ ∀ c ∈ later, amount c ≤ amount best

/-- The first of the candidates that have the greatest amount. -/
def Greatest (amount : Candidate → β) (cs : List Candidate) (best : Candidate) : Prop :=
  ∃ earlier later, cs = earlier ++ best :: later ∧ Leads amount earlier best later

theorem Leads.le (h : Leads amount earlier best later) :
    ∀ c ∈ earlier ++ best :: later, amount c ≤ amount best := by
  intro c hc
  rcases List.mem_append.1 hc with hc | hc
  · exact le_of_lt (h.1 c hc)
  · rcases List.mem_cons.1 hc with rfl | hc
    · exact le_refl _
    · exact h.2 c hc

theorem Leads.of_sublist {fewer rest : List Candidate} (h : Leads amount earlier best later)
    (hearlier : fewer.Sublist earlier) (hlater : rest.Sublist later) :
    Leads amount fewer best rest :=
  ⟨fun c hc => h.1 c (hearlier.mem hc), fun c hc => h.2 c (hlater.mem hc)⟩

theorem exists_leads (amount : Candidate → β) (hne : cs ≠ []) :
    ∃ earlier best later, cs = earlier ++ best :: later ∧ Leads amount earlier best later := by
  induction cs with
  | nil => contradiction
  | cons c more ih =>
    by_cases hmore : more = []
    · exact ⟨[], c, [], by rw [hmore]; rfl, by simp [Leads]⟩
    obtain ⟨earlier, best, later, rfl, h⟩ := ih hmore
    -- the head only gives way to more
    by_cases hc : amount c < amount best
    · exact ⟨c :: earlier, best, later, rfl, List.forall_mem_cons.2 ⟨hc, h.1⟩, h.2⟩
    · refine ⟨[], c, earlier ++ best :: later, rfl, by simp, fun d hd => ?_⟩
      exact (h.le d hd).trans (not_lt.1 hc)

theorem Greatest.mem (h : Greatest amount cs best) : best ∈ cs := by
  obtain ⟨earlier, later, rfl, -⟩ := h
  exact List.mem_append_right earlier List.mem_cons_self

theorem Greatest.le (h : Greatest amount cs best) : ∀ c ∈ cs, amount c ≤ amount best := by
  obtain ⟨earlier, later, rfl, h⟩ := h
  exact h.le

end

variable {score : Scorer} {number : Candidate → Number} {first best c : Candidate}
  {earlier later more : List Candidate} {v : Value} {s : Number}

def Scored (score : Scorer) (number : Candidate → Number) (cs : List Candidate) : Prop :=
  ∀ c ∈ cs, score c.value c.element = .ok (some (number c))

/-- The candidate that is chosen: the first one if its score is NaN, and otherwise the first of the
greatest score. -/
structure Chosen (number : Candidate → Number) (first : Candidate) (earlier : List Candidate)
    (best : Candidate) (later : List Candidate) : Prop where
  nan_first : number first = .nan → earlier = []
  leads : number first ≠ .nan → Leads (fun c => (number c).rank) earlier best later

theorem exists_chosen (number : Candidate → Number) (first : Candidate) (more : List Candidate) :
    ∃ earlier best later, first :: more = earlier ++ best :: later ∧
      Chosen number first earlier best later := by
  by_cases hnan : number first = .nan
  · exact ⟨[], first, more, rfl, fun _ => rfl, fun hne => absurd hnan hne⟩
  · obtain ⟨earlier, best, later, hs, hleads⟩ :=
      exists_leads (fun c => (number c).rank) (List.cons_ne_nil first more)
    exact ⟨earlier, best, later, hs, fun h => absurd h hnan, fun _ => hleads⟩

theorem Chosen.not_nan (h : Chosen number first earlier best later)
    (hs : first :: more = earlier ++ best :: later) (hne : number first ≠ .nan) :
    number best ≠ .nan := by
  have hle := (h.leads hne).le first (hs ▸ List.mem_cons_self)
  exact Number.bot_lt_rank_iff.1 (lt_of_lt_of_le (Number.bot_lt_rank_iff.2 hne) hle)

theorem challenge_cons (h : Scored score number (c :: more)) :
    challenge score v (some s) (c :: more) =
      if (number c).exceeds s then challenge score c.value (some (number c)) more
      else challenge score v (some s) more := by
  rw [challenge, h c List.mem_cons_self]
  rfl

theorem challenge_kept (h : Scored score number more)
    (hx : ∀ c ∈ more, (number c).exceeds s = false) :
    challenge score v (some s) more = .ok (v, some s) := by
  induction more with
  | nil => rfl
  | cons c more ih =>
    rw [List.forall_mem_cons] at hx
    rw [challenge_cons h, hx.1, if_neg Bool.false_ne_true]
    exact ih (List.forall_mem_cons.1 h).2 hx.2

/-- Whatever takes the lead before it, a candidate that exceeds all of them takes it in the end. -/
theorem challenge_reached (h : Scored score number (earlier ++ best :: later))
    (hs : (number best).exceeds s = true)
    (hx : ∀ c ∈ earlier, (number c).rank < (number best).rank) :
    challenge score v (some s) (earlier ++ best :: later) =
      challenge score best.value (some (number best)) later := by
  induction earlier generalizing v s with
  | nil => rw [List.nil_append, challenge_cons h, if_pos hs]
  | cons c earlier ih =>
    rw [List.forall_mem_cons] at hx
    rw [List.cons_append] at h ⊢
    have hmore := (List.forall_mem_cons.1 h).2
    rw [challenge_cons h]
    split
    case isTrue hc =>
      have hne : number c ≠ .nan := by
        intro hnan
        rw [hnan, Number.nan_exceeds] at hc
        contradiction
      exact ih hmore ((Number.exceeds_iff_rank hne).2 hx.1) hx.2
    case isFalse => exact ih hmore hs hx.2

theorem best_of_chosen (h : Scored score number (first :: more))
    (hs : first :: more = earlier ++ best :: later) (hc : Chosen number first earlier best later) :
    Candidate.best score first more = .ok (best.value, some (number best)) := by
  have hmore := (List.forall_mem_cons.1 h).2
  rw [Candidate.best, h first List.mem_cons_self, ok_bind]
  cases earlier with
  | nil =>
    -- nothing exceeds NaN, nor a greatest score
    obtain ⟨rfl, rfl⟩ := List.cons.inj hs
    refine challenge_kept hmore fun c hmem => ?_
    by_cases hnan : number first = .nan
    · rw [hnan, Number.exceeds_nan]
    · exact Number.exceeds_eq_false_of_rank ((hc.leads hnan).2 c hmem)
  | cons c earlier =>
    rw [List.cons_append] at hs
    obtain ⟨rfl, rfl⟩ := List.cons.inj hs
    have hne : number first ≠ .nan := fun hnan => List.cons_ne_nil _ _ (hc.nan_first hnan)
    have hleads := hc.leads hne
    have hx := List.forall_mem_cons.1 hleads.1
    rw [challenge_reached hmore ((Number.exceeds_iff_rank hne).2 hx.1) hx.2]
    refine challenge_kept (List.forall_mem_cons.1 (List.forall_mem_append.1 hmore).2).2 ?_
    exact fun d hd => Number.exceeds_eq_false_of_rank (hleads.2 d hd)

/-- Scores that are all on the line are compared by their amounts. -/
theorem best_greatest {amount : Candidate → Amount}
    (h : ∀ c ∈ first :: more, score c.value c.element = .ok (some (number c)) ∧
      (number c).amount? = some (amount c)) :
    ∃ best, Greatest amount (first :: more) best ∧
      Candidate.best score first more = .ok (best.value, some (number best)) := by
  obtain ⟨earlier, best, later, hs, hc⟩ := exists_chosen number first more
  have hfirst : number first ≠ .nan := by
    rw [Ne, ← Number.amount?_eq_none_iff, (h first List.mem_cons_self).2]
    exact Option.some_ne_none _
  have hrank : ∀ c ∈ earlier ++ best :: later, (number c).rank = amount c :=
    fun c hmem => Number.rank_of_amount? (h c (hs ▸ hmem)).2
  have hbest := hrank best (by simp)
  obtain ⟨hearlier, hlater⟩ := hc.leads hfirst
  refine ⟨best, ⟨earlier, later, hs, fun c hmem => ?_, fun c hmem => ?_⟩,
    best_of_chosen (fun c hmem => (h c hmem).1) hs hc⟩
  · have hlt : (number c).rank < (number best).rank := hearlier c hmem
    rwa [hrank c (List.mem_append_left _ hmem), hbest, WithBot.coe_lt_coe] at hlt
  · have hle : (number c).rank ≤ (number best).rank := hlater c hmem
    rwa [hrank c (by simp [hmem]), hbest, WithBot.coe_le_coe] at hle

end LinkPreview.Candidate
