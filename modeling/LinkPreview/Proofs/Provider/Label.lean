import LinkPreview.Proofs.Text.Trim
import LinkPreview.Provider

set_option autoImplicit false

namespace LinkPreview

namespace Text

theorem blank_append_iff {cs ds : List Char} :
    (∀ c ∈ cs ++ ds, isBlank c = true) ↔
      (∀ c ∈ cs, isBlank c = true) ∧ ∀ c ∈ ds, isBlank c = true := by
  simp only [List.mem_append, or_imp, forall_and]

theorem blank_join_iff {sep : List Char} (hsep : ∀ c ∈ sep, isBlank c = true)
    {pieces : List (List Char)} :
    (∀ c ∈ join sep pieces, isBlank c = true) ↔
      ∀ piece ∈ pieces, ∀ c ∈ piece, isBlank c = true := by
  induction pieces with
  | nil => simp [join]
  | cons piece more ih =>
    cases more with
    | nil => simp [join]
    | cons next more =>
      have hhead : (∀ p ∈ piece :: next :: more, ∀ c ∈ p, isBlank c = true) ↔
          (∀ c ∈ piece, isBlank c = true) ∧ ∀ p ∈ next :: more, ∀ c ∈ p, isBlank c = true :=
        List.forall_mem_cons
      rw [join_cons _ _ _ (by simp), blank_append_iff, blank_append_iff, ih, and_iff_left hsep,
        hhead]

end Text

namespace Provider
open Text

/-- The labels of a host that name its site. A host without a dot is its only label. -/
def names (host : List Char) : List (List Char) :=
  if host.contains '.' then
    (withoutTop (withoutWww (splitAt '.' host))).filter (!·.isEmpty)
  else [host]

theorem ofHost_eq_join (host : List Char) : ofHost host = join [' '] (names host) := by
  unfold ofHost names
  split <;> rfl

theorem isBlankText_ofHost_iff {host : List Char} :
    isBlankText (String.ofList (ofHost host)) = true ↔
      ∀ name ∈ names host, ∀ c ∈ name, isBlank c = true := by
  rw [isBlankText_eq_true_iff, String.toList_ofList, ofHost_eq_join,
    blank_join_iff (List.forall_mem_singleton.2 (by decide))]

example : names "www.bbc.co.uk".toList = ["bbc".toList] ∧ names " .com".toList = [[' ']] := by
  decide

theorem ofValue_text (s : String) :
    ofValue (.text s) = .ok (.text (if s = "" then "" else String.ofList (ofHost s.toList))) := by
  by_cases hs : s = ""
  · simp [ofValue, Value.isFalsy, hs]
  · simp [ofValue, Value.isFalsy, hs]

theorem exists_host_of_ofValue {host : Option String} {v : Value} (hv : v.isFalsy = false)
    (h : ofValue (Value.ofText? host) = .ok v) :
    ∃ s, host = some s ∧ v = .text (String.ofList (ofHost s.toList)) := by
  cases host with
  | none =>
    obtain rfl : .text "" = v := Except.ok.inj h
    contradiction
  | some s =>
    obtain rfl := Except.ok.inj ((ofValue_text s).symm.trans h)
    refine ⟨s, rfl, congrArg Value.text (if_neg ?_)⟩
    intro hs
    rw [if_pos hs] at hv
    contradiction

end Provider
end LinkPreview
