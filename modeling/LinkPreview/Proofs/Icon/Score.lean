import LinkPreview.Proofs.Icon.Extent
import LinkPreview.Proofs.Icon.Word
import LinkPreview.Proofs.Text.Trim

/-! The score of an icon by the words of its declared sizes. It is the largest number that a word
counts, or zero, so it is told by which words there are, in whatever order and how often. -/
set_option autoImplicit false

namespace LinkPreview

namespace Number

/-- A whole number or a half. -/
def IsScore (x : Number) : Prop := x = .half ∨ ∃ k : Int, x = .whole k

variable {x y : Number}

theorem IsScore.isOrdered (h : x.IsScore) : x.IsOrdered := by
  rcases h with rfl | ⟨k, rfl⟩
  · exact ⟨_, rfl⟩
  · exact ⟨_, rfl⟩

theorem IsScore.larger (hx : x.IsScore) (hy : y.IsScore) : (x.larger y).IsScore := by
  unfold Number.larger
  split
  · exact hy
  · exact hx

theorem half_exceeds_whole (k : Int) : half.exceeds (whole k) = decide (k < 1) := by
  simp only [half, exceeds, fraction?, tenTo]
  refine decide_eq_decide.2 ?_
  simp only [Nat.pow_eq, Nat.reducePow]
  omega

theorem whole_exceeds_half (k : Int) : (whole k).exceeds half = decide (0 < k) := by
  simp only [half, exceeds, fraction?, tenTo]
  refine decide_eq_decide.2 ?_
  simp only [Nat.pow_eq, Nat.reducePow]
  omega

/-- No whole number is a half, so scores that do not exceed each other are one. -/
theorem IsScore.eq_of_not_exceeds (hx : x.IsScore) (hy : y.IsScore)
    (hxy : x.exceeds y = false) (hyx : y.exceeds x = false) : x = y := by
  rcases hx with rfl | ⟨k, rfl⟩ <;> rcases hy with rfl | ⟨l, rfl⟩
  case inl.inl => rfl
  case inl.inr =>
    simp only [half_exceeds_whole, whole_exceeds_half, decide_eq_false_iff_not] at hxy hyx
    omega
  case inr.inl =>
    simp only [half_exceeds_whole, whole_exceeds_half, decide_eq_false_iff_not] at hxy hyx
    omega
  case inr.inr =>
    simp only [whole_exceeds_whole, decide_eq_false_iff_not] at hxy hyx
    exact congrArg whole (by omega)

theorem Largest.eq {P : Number → Prop} (hP : ∀ z, P z → z.IsScore) (hx : Largest P x)
    (hy : Largest P y) : x = y :=
  (hP x hx.mem).eq_of_not_exceeds (hP y hy.mem) (hy.not_exceeded x hx.mem)
    (hx.not_exceeded y hy.mem)

end Number

namespace IconSize
open Text

theorem Counts.isScore {word : List Char} {n : Number} (h : Counts word n) : n.IsScore := by
  cases h with
  | any h => exact .inl rfl
  | area hx hw hh => exact .inr ⟨_, rfl⟩

abbrev NumeralReader := List Char → Except Fault Int

def NumeralReader.Total (read : NumeralReader) : Prop :=
  ∀ digits, IsNumeral digits → read digits = .ok (digitsValue digits)

def Size.scoreBy (read : NumeralReader) : Size → Except Fault Number
  | .any => .ok .half
  | .area width height => do return .whole ((← read width) * (← read height))

def Size.IsShort : Size → Prop
  | .any => True
  | .area width height => width.length ≤ digitLimit ∧ height.length ≤ digitLimit

instance (size : Size) : Decidable size.IsShort :=
  match size with
  | .any => inferInstanceAs (Decidable True)
  | .area width height =>
    inferInstanceAs (Decidable (width.length ≤ digitLimit ∧ height.length ≤ digitLimit))

def scoreFromBy (read : NumeralReader) (best : Number) : List (List Char) → Except Fault Number
  | [] => .ok best
  | word :: more =>
    match Size.read? word with
    | none => scoreFromBy read best more
    | some size => do scoreFromBy read (best.larger (← size.scoreBy read)) more

def declaredWords : Option Attribute → List (List Char)
  | none => []
  | some declared => words declared.text.toList

def scoreBy (read : NumeralReader) (declared : Option Attribute) : Except Fault Number :=
  scoreFromBy read (.whole 0) (declaredWords declared)

/-- What the score is to be the largest of: zero, and what the declared words count. -/
def Declares (declared : Option Attribute) (n : Number) : Prop :=
  n = .whole 0 ∨ ∃ word ∈ declaredWords declared, Counts word n

section
variable {read : NumeralReader} {best n : Number} {word : List Char} {wordList : List (List Char)}
  {declared : Option Attribute}

theorem Size.scoreBy_numeral (size : Size) : size.scoreBy numeral = size.score := by
  cases size with
  | any => rfl
  | area width height => rfl

theorem scoreFromBy_numeral (best : Number) (wordList : List (List Char)) :
    scoreFromBy numeral best wordList = scoreFrom best wordList := by
  induction wordList generalizing best with
  | nil => rfl
  | cons word more ih =>
    rw [scoreFromBy, scoreFrom]
    cases Size.read? word with
    | none => exact ih best
    | some size =>
      dsimp only
      rw [Size.scoreBy_numeral]
      cases size.score with
      | error fault => rfl
      | ok m => exact ih (best.larger m)

theorem scoreFromBy_congr {other : NumeralReader}
    (h : ∀ word ∈ wordList, ∀ size, Size.read? word = some size →
      size.scoreBy other = size.scoreBy read) (best : Number) :
    scoreFromBy other best wordList = scoreFromBy read best wordList := by
  induction wordList generalizing best with
  | nil => rfl
  | cons word more ih =>
    rw [List.forall_mem_cons] at h
    rw [scoreFromBy, scoreFromBy]
    cases hr : Size.read? word with
    | none => exact ih h.2 best
    | some size =>
      dsimp only
      rw [h.1 size hr]
      cases size.scoreBy read with
      | error fault => rfl
      | ok m => exact ih h.2 (best.larger m)

theorem scoreBy_of_read {size : Size} (hread : read.Total) (h : Size.read? word = some size) :
    size.scoreBy read = .ok size.number := by
  cases size with
  | any => rfl
  | area width height =>
    obtain ⟨hw, hh⟩ := isNumeral_of_read h
    rw [Size.scoreBy, hread width hw, hread height hh]
    rfl

theorem scoreBy_numeral_of_read {size : Size} (hread : read.Total)
    (h : Size.read? word = some size) (hshort : size.IsShort) :
    size.scoreBy numeral = size.scoreBy read := by
  rw [scoreBy_of_read hread h]
  cases size with
  | any => rfl
  | area width height =>
    obtain ⟨hw, hh⟩ := hshort
    rw [Size.scoreBy, numeral, if_neg (Nat.not_lt.2 hw), ok_bind, numeral,
      if_neg (Nat.not_lt.2 hh)]
    rfl

theorem isScore_of_counted (hbest : best.IsScore) (m : Number)
    (h : m = best ∨ ∃ word ∈ wordList, Counts word m) : m.IsScore := by
  rcases h with rfl | ⟨word, -, hcounts⟩
  · exact hbest
  · exact hcounts.isScore

/-- The invariant of scoring: the result is the largest of the best so far and what the words to
come count. -/
theorem scoreFromBy_largest (hread : read.Total) (hbest : best.IsScore) :
    ∃ n, scoreFromBy read best wordList = .ok n ∧
      Number.Largest (fun m => m = best ∨ ∃ word ∈ wordList, Counts word m) n := by
  induction wordList generalizing best with
  | nil =>
    exact ⟨best, rfl, (Number.largest_self best).congr fun m => by simp⟩
  | cons word more ih =>
    rw [scoreFromBy]
    cases hr : Size.read? word with
    | none =>
      -- a word that is no size counts nothing
      obtain ⟨n, hn, hlargest⟩ := ih hbest
      have hnone : ∀ m, ¬ Counts word m := by
        intro m hm
        obtain ⟨size, hs, -⟩ := counts_iff.1 hm
        rw [hr] at hs
        contradiction
      exact ⟨n, hn, hlargest.congr fun m => by simp [hnone]⟩
    | some size =>
      have hnumber : Counts word size.number := counts_iff.2 ⟨size, hr, rfl⟩
      have hscore := hnumber.isScore
      obtain ⟨n, hn, hlargest⟩ := ih (hbest.larger hscore)
      refine ⟨n, ?_, ?_⟩
      · dsimp only
        rw [scoreBy_of_read hread hr]
        exact hn
      · have hone : ∀ m, Counts word m ↔ m = size.number := by
          intro m
          simp [counts_iff, hr, eq_comm]
        have hpair := Number.largest_larger hbest.isOrdered hscore.isOrdered
        refine (hpair.of_largest ?_ ?_ hlargest).congr fun m => by simp [hone, or_assoc]
        · rintro m (rfl | rfl)
          · exact hbest.isOrdered
          · exact hscore.isOrdered
        · rintro m ⟨w, -, hcounts⟩
          exact hcounts.isScore.isOrdered

theorem scoreBy_largest (hread : read.Total) (declared : Option Attribute) :
    ∃ n, scoreBy read declared = .ok n ∧ Number.Largest (Declares declared) n :=
  scoreFromBy_largest hread (.inr ⟨0, rfl⟩)

theorem Declares.isScore (h : Declares declared n) : n.IsScore :=
  isScore_of_counted (.inr ⟨0, rfl⟩) n h

theorem scoreBy_eq (hread : read.Total) (h : Number.Largest (Declares declared) n) :
    scoreBy read declared = .ok n := by
  obtain ⟨m, hm, hlargest⟩ := scoreBy_largest hread declared
  rw [hm, hlargest.eq (fun _ => Declares.isScore) h]

theorem scoreBy_congr {other : Option Attribute} (hread : read.Total)
    (h : ∀ m, Declares declared m ↔ Declares other m) :
    scoreBy read declared = scoreBy read other := by
  obtain ⟨n, hn, hlargest⟩ := scoreBy_largest hread declared
  rw [hn, scoreBy_eq hread (hlargest.congr h)]

end

def IsSize (word : List Char) : Prop := ∃ n, Counts word n

/-- Scores that are told by the sizes among the declared words. -/
structure ToldBySizes (score : Option Attribute → Except Fault Number) : Prop where
  largest : ∀ declared, ∃ n, score declared = .ok n ∧ Number.Largest (Declares declared) n
  /-- A list is scored as its items with spaces between them. -/
  joined : ∀ ws, score (some (.words ws)) = score (some (.single (unwords ws)))
  append : ∀ s blanks t : String, blanks ≠ "" → isBlankText blanks = true → ∃ a b,
    score (some (.single s)) = .ok a ∧ score (some (.single t)) = .ok b ∧
      score (some (.single (s ++ blanks ++ t))) = .ok (a.larger b)
  /-- The order of the words, repetitions and words that are no sizes make no difference. -/
  same_sizes : ∀ s t : String,
    (∀ word, IsSize word → (word ∈ words s.toList ↔ word ∈ words t.toList)) →
      score (some (.single s)) = score (some (.single t))
  same_letters : ∀ s t : String, asciiLower s.toList = asciiLower t.toList →
    score (some (.single s)) = score (some (.single t))
  more_words : ∀ s t : String, (∀ word ∈ words s.toList, word ∈ words t.toList) → ∃ a b,
    score (some (.single s)) = .ok a ∧ score (some (.single t)) = .ok b ∧ a.exceeds b = false

section
variable {read : NumeralReader}

theorem declares_append {s blanks t : String} (hne : blanks ≠ "")
    (hblank : isBlankText blanks = true) (n : Number) :
    Declares (some (.single (s ++ blanks ++ t))) n ↔
      Declares (some (.single s)) n ∨ Declares (some (.single t)) n := by
  have hchars : blanks.toList ≠ [] := by simpa using hne
  simp only [Declares, declaredWords, Attribute.text, String.toList_append,
    words_append hchars (isBlankText_eq_true_iff.1 hblank), List.mem_append,
    or_and_right, exists_or]
  exact or_or_distrib_left

theorem declares_congr {s t : String}
    (h : ∀ word, IsSize word → (word ∈ words s.toList ↔ word ∈ words t.toList)) (n : Number) :
    Declares (some (.single s)) n ↔ Declares (some (.single t)) n := by
  refine or_congr_right (exists_congr fun word => ?_)
  exact and_congr_left fun hcounts => h word ⟨n, hcounts⟩

theorem declares_asciiLower {s : String} (n : Number) :
    Declares (some (.single s)) n ↔
      n = .whole 0 ∨ ∃ word ∈ words (asciiLower s.toList), Counts word n := by
  simp [Declares, declaredWords, Attribute.text, words_asciiLower, counts_asciiLower_iff]

theorem toldBySizes (hread : read.Total) : ToldBySizes (scoreBy read) := by
  constructor
  case largest => exact scoreBy_largest hread
  case joined => exact fun ws => rfl
  case append =>
    intro s blanks t hne hblank
    obtain ⟨a, ha, hla⟩ := scoreBy_largest hread (some (.single s))
    obtain ⟨b, hb, hlb⟩ := scoreBy_largest hread (some (.single t))
    have hboth := hla.larger (fun _ h => h.isScore.isOrdered) (fun _ h => h.isScore.isOrdered) hlb
    exact ⟨a, b, ha, hb, scoreBy_eq hread
      (hboth.congr fun n => (declares_append hne hblank n).symm)⟩
  case same_sizes => exact fun s t h => scoreBy_congr hread (declares_congr h)
  case same_letters =>
    intro s t h
    refine scoreBy_congr hread fun n => ?_
    rw [declares_asciiLower, declares_asciiLower, h]
  case more_words =>
    intro s t h
    obtain ⟨a, ha, hla⟩ := scoreBy_largest hread (some (.single s))
    obtain ⟨b, hb, hlb⟩ := scoreBy_largest hread (some (.single t))
    refine ⟨a, b, ha, hb, hlb.not_exceeded a (hla.mem.imp_right ?_)⟩
    rintro ⟨word, hw, hcounts⟩
    exact ⟨word, h word hw, hcounts⟩

theorem scoreBy_numeral_of_short (hread : read.Total) {element : Place}
    (h : ∀ size ∈ element.sizes, size.IsShort) :
    scoreBy numeral (element.attribute? "sizes") = scoreBy read (element.attribute? "sizes") := by
  unfold Place.sizes at h
  cases hd : element.attribute? "sizes" with
  | none => rfl
  | some declared =>
    rw [hd] at h
    refine scoreFromBy_congr ?_ _
    intro word hw size hsize
    exact scoreBy_numeral_of_read hread hsize (h size (List.mem_filterMap.2 ⟨word, hw, hsize⟩))

theorem iconSize_eq_scoreBy (v : Value) (element : Place) :
    Scorer.iconSize v element = (scoreBy numeral (element.attribute? "sizes")).map some := by
  unfold Scorer.iconSize scoreBy
  rw [scoreFromBy_numeral]
  cases element.attribute? "sizes" with
  | none => rfl
  | some declared => rfl

/-- If numerals of any length are read, the score of an icon is told by the sizes among its declared
words. With a limit it is the same score as long as no numeral is longer. -/
theorem scoreBy_told (hread : read.Total) :
    ToldBySizes (scoreBy read) ∧ ∀ (v : Value) (element : Place),
      Scorer.iconSize v element = (scoreBy numeral (element.attribute? "sizes")).map some ∧
      ((∀ size ∈ element.sizes, size.IsShort) →
        scoreBy numeral (element.attribute? "sizes") =
          scoreBy read (element.attribute? "sizes")) :=
  ⟨toldBySizes hread, fun v element =>
    ⟨iconSize_eq_scoreBy v element, scoreBy_numeral_of_short hread⟩⟩

end

def readAll : NumeralReader := fun digits => .ok (digitsValue digits)

def sizedIcon : Place :=
  .first (.document .nil) ⟨"link", [("sizes", .single "ANY 5x5 ٣X4")]⟩ .nil true

theorem scoreBy_told_sizedIcon :
    readAll.Total ∧ scoreBy readAll (some (.single "any 5x5")) = .ok (.whole 25) ∧
      scoreBy readAll (some (.single "٣X4")) = .ok (.whole 12) ∧
      scoreBy readAll (some (.single "any 5x5 ٣X4")) = .ok (.whole 25) ∧
      Scorer.iconSize .null sizedIcon = .ok (some (.whole 25)) := by
  have hread : readAll.Total := fun _ _ => rfl
  obtain ⟨htold, hscorer⟩ := scoreBy_told hread
  have hfirst : scoreBy readAll (some (.single "any 5x5")) = .ok (.whole 25) := by rfl
  have hlast : scoreBy readAll (some (.single "٣X4")) = .ok (.whole 12) := by rfl
  have hboth : scoreBy readAll (some (.single "any 5x5 ٣X4")) = .ok (.whole 25) := by
    obtain ⟨a, b, ha, hb, happend⟩ := htold.append "any 5x5" " " "٣X4" (by decide) (by decide)
    obtain rfl := Except.ok.inj (hfirst.symm.trans ha)
    obtain rfl := Except.ok.inj (hlast.symm.trans hb)
    exact happend
  refine ⟨hread, hfirst, hlast, hboth, ?_⟩
  have hcase := htold.same_letters "ANY 5x5 ٣X4" "any 5x5 ٣X4" (by decide)
  obtain ⟨hicon, hshort⟩ := hscorer .null sizedIcon
  rw [hicon, hshort (by decide)]
  exact congrArg (Except.map some) (hcase.trans hboth)

end IconSize
end LinkPreview
