import LinkPreview.Text.Case

set_option autoImplicit false

namespace LinkPreview.Text
variable {c x : Char}

/-- The Kelvin sign apart, the runs beyond A to Z stay beyond them. -/
theorem lowerRuns_beyond : ∀ r ∈ lowerRuns, r.last < 128 ∨ (r.first = 0x212A ∧ r.last = 0x212A) ∨
    128 ≤ r.first + r.shift ∧
      (r.last + r.shift < 0xD800 ∨ 0xDFFF < r.first + r.shift ∧ r.last + r.shift < 0x110000) := by
  decide +kernel

theorem of_ascii {P : Char → Prop} (h : ∀ n < 128, P (Char.ofNat n)) (hc : c.toNat < 128) : P c := by
  have hn := h c.toNat hc
  rwa [Char.ofNat_toNat] at hn

theorem lowerChar_of_ascii (h : c.toNat < 128) : lowerChar c = c.toLower := by
  have hall : ∀ n < 128, lowerChar (Char.ofNat n) = (Char.ofNat n).toLower := by decide +kernel
  exact of_ascii (P := fun c => lowerChar c = c.toLower) hall h

theorem toLower_of_beyond (h : 128 ≤ c.toNat) : c.toLower = c := by
  refine dif_neg fun hletter => ?_
  have hlast : c.toNat ≤ 'Z'.toNat := UInt32.le_iff_toNat_le.1 hletter.2
  exact absurd (Nat.le_trans h hlast) (by decide)

/-- What holds of the first characters and their small letters, and of all others and themselves,
holds of every character and its small letter. -/
theorem toLower_cases {P : Char → Char → Prop}
    (hascii : ∀ n < 128, P (Char.ofNat n) (Char.ofNat n).toLower)
    (hbeyond : ∀ c : Char, 128 ≤ c.toNat → P c c) (c : Char) : P c c.toLower := by
  by_cases hc : c.toNat < 128
  · exact of_ascii (P := fun c => P c c.toLower) hascii hc
  · have hle : 128 ≤ c.toNat := Nat.le_of_not_lt hc
    rw [toLower_of_beyond hle]
    exact hbeyond c hle

theorem toLower_toLower (c : Char) : c.toLower.toLower = c.toLower :=
  toLower_cases (P := fun _ d => d.toLower = d) (by decide) (fun _ => toLower_of_beyond) c

@[simp] theorem asciiLower_asciiLower (cs : List Char) :
    asciiLower (asciiLower cs) = asciiLower cs := by
  simp only [asciiLower, List.map_map]
  exact List.map_congr_left fun c _ => toLower_toLower c

theorem lt_of_isAlpha (h : c.isAlpha = true) : c.toNat < 128 := by
  rcases Bool.or_eq_true_iff.1 (h : (c.isUpper || c.isLower) = true) with hupper | hlower
  · have hle : c.val ≤ 'Z'.val := (of_decide_eq_true hupper).2
    exact Nat.lt_of_le_of_lt hle (by decide)
  · have hle : c.val ≤ 'z'.val := of_decide_eq_true (Bool.and_eq_true_iff.1 hlower).2
    exact Nat.lt_of_le_of_lt hle (by decide)

theorem le_toNat_lowerChar (h : 128 ≤ c.toNat) (hkelvin : c ≠ '\u212A') (hdotted : c ≠ '\u0130') :
    128 ≤ (lowerChar c).toNat := by
  unfold lowerChar
  rw [if_neg hdotted]
  split
  case h_1 r hr =>
    have hhas := List.find?_some hr
    simp only [CaseRun.has, Bool.and_eq_true, decide_eq_true_eq] at hhas
    rcases lowerRuns_beyond r (List.mem_of_find?_eq_some hr) with hlast | hkelvins | hshift
    · omega
    · have hc : c.toNat = '\u212A'.toNat := by
        show c.toNat = 0x212A
        omega
      exact absurd (Char.toNat_inj.1 hc) hkelvin
    · have hvalid : (c.toNat + r.shift).toNat.isValidChar := by
        simp only [Nat.isValidChar]
        omega
      have hvalue : (Char.ofNat (c.toNat + r.shift).toNat).toNat = (c.toNat + r.shift).toNat := by
        rw [Char.ofNat, dif_pos hvalid]
        rfl
      omega
  case h_2 => exact h

theorem lowerChar_eq_iff (hx : x.toNat < 128) (hk : x ≠ 'k') (hi : x ≠ 'i') :
    lowerChar c = x ↔ c.toLower = x := by
  by_cases hc : c.toNat < 128
  · rw [lowerChar_of_ascii hc]
  · have hbeyond : 128 ≤ c.toNat := Nat.le_of_not_lt hc
    have hself : c ≠ x := fun he => hc (he ▸ hx)
    rw [toLower_of_beyond hbeyond]
    refine iff_of_false (fun he => ?_) hself
    by_cases hkelvin : c = '\u212A'
    · subst hkelvin
      exact hk (he.symm.trans (by decide +kernel))
    · by_cases hdotted : c = '\u0130'
      · subst hdotted
        exact hi (he.symm.trans (by decide +kernel))
      · have hle := le_toNat_lowerChar hbeyond hkelvin hdotted
        rw [he] at hle
        omega

theorem lowerFrom_eq_iff {past cs word : List Char}
    (h : ∀ x ∈ word, x.toNat < 128 ∧ x ≠ 'k' ∧ x ≠ 'i') :
    lowerFrom past cs = word ↔ asciiLower cs = word := by
  induction cs generalizing past word with
  | nil => rfl
  | cons c cs ih =>
    have hcapital : asciiLower (c :: cs) = c.toLower :: asciiLower cs := rfl
    rw [hcapital]
    cases word with
    | nil =>
      simp only [lowerFrom]
      split
      · simp
      · split <;> simp
    | cons x word =>
      obtain ⟨⟨hx, hk, hi⟩, hword⟩ := List.forall_mem_cons.1 h
      have hsign : ∀ s : Char, 128 ≤ s.toNat → s ≠ x := by
        rintro s hs rfl
        omega
      simp only [lowerFrom]
      split
      case isTrue hsigma =>
        -- both of the small sigmas are beyond the letters of the word
        subst hsigma
        refine iff_of_false (fun he => ?_) (fun he => hsign 'Σ' (by decide) (List.cons.inj he).1)
        have hhead := (List.cons.inj he).1
        split at hhead
        · exact hsign 'ς' (by decide) hhead
        · exact hsign 'σ' (by decide) hhead
      case isFalse hsigma =>
        split
        case isTrue hdotted =>
          subst hdotted
          exact iff_of_false (fun he => hi (List.cons.inj he).1.symm)
            (fun he => hsign '\u0130' (by decide) (List.cons.inj he).1)
        case isFalse hdotted =>
          rw [List.cons.injEq, List.cons.injEq, lowerChar_eq_iff hx hk hi, ih hword]

end LinkPreview.Text
