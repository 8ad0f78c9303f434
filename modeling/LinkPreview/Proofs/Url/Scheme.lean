import LinkPreview.Proofs.Outcome
import LinkPreview.Proofs.Text.Trim
import LinkPreview.Catalog.Parts

set_option autoImplicit false

namespace LinkPreview
namespace Url
open Text

def hasScheme (text : List Char) : Bool := (scheme? (clean text)).isSome

theorem of_scheme?_eq_some {cs name rest : List Char} (h : scheme? cs = some (name, rest)) :
    ':' ∈ cs ∧ name ≠ [] := by
  simp only [scheme?, Option.ite_none_right_eq_some, Bool.and_eq_true, List.contains_iff_mem,
    Option.some.injEq, Prod.mk.injEq] at h
  obtain ⟨⟨⟨hcolon, hhead⟩, -⟩, rfl, -⟩ := h
  refine ⟨hcolon, ?_⟩
  intro hn
  have hbefore : before ':' cs = [] := List.map_eq_nil_iff.1 hn
  simp [hbefore] at hhead

theorem read_scheme {scheme text : List Char} {url : Url} (h : read scheme text = .ok url) :
    url.scheme = ((scheme? (clean text)).map (·.1)).getD scheme := by
  unfold read at h
  simp only [bind_eq_ok, pure_eq_ok, Except.ok.injEq] at h
  obtain ⟨-, -, -, -, rfl⟩ := h
  cases scheme? (clean text) <;> rfl

theorem hasScheme_iff {text : List Char} {url : Url} (h : read [] text = .ok url) :
    hasScheme text = true ↔ url.scheme ≠ [] := by
  rw [read_scheme h, hasScheme]
  cases hs : scheme? (clean text) with
  | none => simp
  | some pair => simpa using (of_scheme?_eq_some hs).2

theorem colon_mem_of_hasScheme {text : List Char} (h : hasScheme text = true) : ':' ∈ text := by
  obtain ⟨pair, hp⟩ := Option.isSome_iff_exists.1 h
  have hclean := (List.mem_filter.1 (of_scheme?_eq_some hp).1).1
  exact (List.dropWhile_suffix _).subset hclean

theorem isEmpty_of_hasScheme {text : String} (h : hasScheme text.toList = true) :
    text.isEmpty = false := by
  cases he : text.isEmpty with
  | false => rfl
  | true =>
    have hcolon := colon_mem_of_hasScheme h
    rw [String.isEmpty_iff.1 he] at hcolon
    simp at hcolon

theorem resolve_scheme (base url : Url) : (resolve base url).scheme = url.scheme := by
  simp only [resolve]
  split
  · rfl
  · split <;> rfl

theorem colon_mem_write {url : Url} (h : url.scheme ≠ []) : ':' ∈ url.write := by
  simp [write, h]

/-- A base and a reference that are taken apart to be resolved. -/
structure Joins (base reference : List Char) (b u : Url) : Prop where
  base : read [] base = .ok b
  reference : read b.scheme reference = .ok u
  scheme : u.scheme = b.scheme
  relative : schemeIn relativeSchemes u.scheme = true

theorem joinTo_eq_or_resolved {base url w : List Char} (hbase : base ≠ []) (hne : url ≠ [])
    (h : joinTo base url = .ok w) :
    w = url ∨ ∃ b u, Joins base url b u ∧ w = (resolve b u).write := by
  simp only [joinTo, List.isEmpty_iff, hbase, hne, if_false, bind_eq_ok] at h
  obtain ⟨b, hb, u, hu, h⟩ := h
  split at h
  case isTrue => exact .inl (by simpa using h.symm)
  case isFalse hsame =>
    simp only [Bool.or_eq_true, bne_iff_ne, ne_eq, not_or, not_not, Bool.not_eq_true',
      Bool.not_eq_false] at hsame
    exact .inr ⟨b, u, ⟨hb, hu, hsame.1, hsame.2⟩, by simpa using h.symm⟩

/-- A reference other than the empty one stays as it is, or is taken apart and resolved. -/
theorem absolute_eq_or_resolved {base url w : List Char} (hne : url ≠ [])
    (h : absolute base url = .ok w) :
    w = url ∨ ∃ b u, Joins base url b u ∧ w = (resolve b u).write := by
  unfold absolute at h
  obtain ⟨u, -, h⟩ := bind_eq_ok.1 h
  split at h
  case isTrue => exact .inl (by simpa using h.symm)
  case isFalse hopen =>
    refine joinTo_eq_or_resolved ?_ hne h
    simp only [Bool.or_eq_true, not_or, List.isEmpty_iff] at hopen
    exact hopen.2

theorem absolute_eq_or_colon_mem {base url w : List Char} (hb : hasScheme base = true)
    (hne : url ≠ []) (h : absolute base url = .ok w) : w = url ∨ ':' ∈ w := by
  refine (absolute_eq_or_resolved hne h).imp_right ?_
  rintro ⟨b, u, hjoins, rfl⟩
  -- Both schemes are the same here, and that of the base is there to be written.
  refine colon_mem_write ?_
  rw [resolve_scheme, hjoins.scheme]
  exact (hasScheme_iff hjoins.base).1 hb

end Url

theorem Value.text_not_empty_of_colon_mem {s : String} (h : ':' ∈ s.toList) :
    (Value.text s).isEmpty = false := by
  cases hb : Text.isBlankText s with
  | false => exact hb
  | true => exact absurd (Text.isBlankText_eq_true_iff.1 hb ':' h) (by decide)

theorem Context.of_resolve_text {base : Option String} {s : String} {w : Value}
    (h : resolve base (.text s) = .ok w) :
    ∃ url, Url.absolute (base.getD "").toList s.toList = .ok url ∧
      w = .text (String.ofList url) := by
  unfold resolve at h
  dsimp only at h
  split at h
  · rename_i url hu
    exact ⟨url, hu, (Except.ok.inj h).symm⟩
  · contradiction

/-- Resolving against a URL with a scheme makes no value empty. -/
theorem Context.resolve_not_empty {url : String} {v w : Value}
    (hu : Url.hasScheme url.toList = true) (hv : v.isEmpty = false)
    (h : resolve (some url) v = .ok w) : w.isEmpty = false := by
  have hcolon := Url.colon_mem_of_hasScheme hu
  have hpage := Value.text_not_empty_of_colon_mem hcolon
  have hempty : url.isEmpty = false := Url.isEmpty_of_hasScheme hu
  cases v with
  | text s =>
    have hne : s.toList ≠ [] := by
      intro hnil
      simp [Value.isEmpty, Text.isBlankText, hnil, Text.trim] at hv
    obtain ⟨r, hr, rfl⟩ := of_resolve_text h
    obtain rfl | hc := Url.absolute_eq_or_colon_mem hu hne hr
    · simpa using hv
    · exact Value.text_not_empty_of_colon_mem (by simpa using hc)
  | null | bool _ | number _ | list _ | tuple _ | record _ =>
    unfold resolve at h
    simp only [Option.getD_some, hempty, Bool.false_eq_true, if_false] at h
    split at h
    · contradiction
    · rw [← Except.ok.inj h]
      exact hpage

end LinkPreview
