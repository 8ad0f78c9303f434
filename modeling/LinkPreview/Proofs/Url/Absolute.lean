import LinkPreview.Proofs.Text.Case
import LinkPreview.Proofs.Url.Scheme

/-! A URL with a scheme is where resolution ends. What is resolved against a base whose scheme has
relative references is written with that scheme, and the scheme is found again when it is read. -/
set_option autoImplicit false

namespace LinkPreview

namespace Url
open Text

structure IsScheme (name : List Char) : Prop where
  head : name.head?.any Char.isAlpha = true
  signs : ∀ c ∈ name, isSchemeChar c = true
  lower : asciiLower name = name

/-- The scheme that a text starts with, also one that cannot be taken apart any further. -/
def schemeOf? (text : List Char) : Option (List Char) := (scheme? (clean text)).map (·.1)

section
variable {c : Char} {cs name rest text : List Char}

theorem lt_of_isSchemeChar (h : isSchemeChar c = true) : c.toNat < 128 := by
  simp only [isSchemeChar, Char.isAlphanum, Bool.or_eq_true, beq_iff_eq] at h
  rcases h with (((halpha | hdigit) | rfl) | rfl) | rfl
  · exact lt_of_isAlpha halpha
  · have hle : c.val ≤ '9'.val := of_decide_eq_true (Bool.and_eq_true_iff.1 hdigit).2
    exact Nat.lt_of_le_of_lt hle (by decide)
  · decide
  · decide
  · decide

theorem isSchemeChar_toLower (h : isSchemeChar c = true) : isSchemeChar c.toLower = true := by
  have hall : ∀ n < 128, isSchemeChar (Char.ofNat n) = true →
      isSchemeChar (Char.ofNat n).toLower = true := by decide
  exact of_ascii (P := fun c => isSchemeChar c = true → isSchemeChar c.toLower = true) hall
    (lt_of_isSchemeChar h) h

theorem isAlpha_toLower (h : c.isAlpha = true) : c.toLower.isAlpha = true := by
  have hall : ∀ n < 128, (Char.ofNat n).isAlpha = true → (Char.ofNat n).toLower.isAlpha = true := by
    decide
  exact of_ascii (P := fun c => c.isAlpha = true → c.toLower.isAlpha = true) hall
    (lt_of_isAlpha h) h

/-- No sign of a scheme is taken out of a text, and none ends a scheme. -/
theorem isSchemeChar_kept (h : isSchemeChar c = true) :
    ¬ c.toNat ≤ 32 ∧ (c != '\t' && c != '\n' && c != '\r') = true ∧ (c != ':') = true := by
  have hall : ∀ n < 128, isSchemeChar (Char.ofNat n) = true → ¬ (Char.ofNat n).toNat ≤ 32 ∧
      (Char.ofNat n != '\t' && Char.ofNat n != '\n' && Char.ofNat n != '\r') = true ∧
      (Char.ofNat n != ':') = true := by decide
  exact of_ascii (P := fun c => isSchemeChar c = true → ¬ c.toNat ≤ 32 ∧
    (c != '\t' && c != '\n' && c != '\r') = true ∧ (c != ':') = true) hall (lt_of_isSchemeChar h) h

theorem isScheme_of_scheme? (h : scheme? cs = some (name, rest)) : IsScheme name := by
  simp only [scheme?, Option.ite_none_right_eq_some, Bool.and_eq_true, Option.some.injEq,
    Prod.mk.injEq] at h
  obtain ⟨⟨⟨-, hhead⟩, hsigns⟩, rfl, -⟩ := h
  constructor
  case head =>
    cases hb : before ':' cs with
    | nil => simp [hb] at hhead
    | cons c more =>
      rw [hb] at hhead
      exact isAlpha_toLower hhead
  case signs =>
    intro c hc
    obtain ⟨d, hd, rfl⟩ := List.mem_map.1 hc
    exact isSchemeChar_toLower (List.all_eq_true.1 hsigns d hd)
  case lower => exact asciiLower_asciiLower _

theorem isScheme_of_schemeOf? (h : schemeOf? text = some name) : IsScheme name := by
  obtain ⟨⟨n, rest⟩, hp, rfl⟩ := Option.map_eq_some_iff.1 h
  exact isScheme_of_scheme? hp

theorem IsScheme.ne_nil (h : IsScheme name) : name ≠ [] := by
  rintro rfl
  simpa using h.head

theorem IsScheme.clean_append (h : IsScheme name) (rest : List Char) :
    ∃ kept, clean (name ++ ':' :: rest) = name ++ ':' :: kept := by
  cases name with
  | nil => exact absurd rfl h.ne_nil
  | cons c more =>
    have hfirst := (isSchemeChar_kept (h.signs c List.mem_cons_self)).1
    have hall : ∀ d ∈ c :: more, (d != '\t' && d != '\n' && d != '\r') = true :=
      fun d hd => (isSchemeChar_kept (h.signs d hd)).2.1
    refine ⟨rest.filter fun d => d != '\t' && d != '\n' && d != '\r', ?_⟩
    rw [clean, List.cons_append, List.dropWhile_cons_of_neg (by simpa using hfirst),
      ← List.cons_append, List.filter_append, List.filter_eq_self.2 hall]
    rfl

theorem IsScheme.scheme?_append (h : IsScheme name) (rest : List Char) :
    scheme? (name ++ ':' :: rest) = some (name, rest) := by
  have hname : ∀ c ∈ name, (c != ':') = true := fun c hc => (isSchemeChar_kept (h.signs c hc)).2.2
  have hbefore : before ':' (name ++ ':' :: rest) = name := by
    rw [before, List.takeWhile_append_of_pos hname]
    simp
  have hafter : after ':' (name ++ ':' :: rest) = rest := by
    rw [after, List.dropWhile_append_of_pos hname]
    simp
  have hcolon : (name ++ ':' :: rest).contains ':' = true := by simp
  have hsigns : name.all isSchemeChar = true := List.all_eq_true.2 h.signs
  rw [scheme?, hbefore, hafter, hcolon, h.head, hsigns, h.lower]
  rfl

theorem schemeOf?_write {x : Url} (h : IsScheme x.scheme) : schemeOf? x.write = some x.scheme := by
  obtain ⟨rest, hwrite⟩ : ∃ rest, x.write = x.scheme ++ ':' :: rest := by
    refine ⟨writeHierarchy x.scheme x.authority (x.path ++ marked ';' x.params) ++
      marked '?' x.query ++ marked '#' x.fragment, ?_⟩
    simp [write, h.ne_nil]
  obtain ⟨kept, hclean⟩ := h.clean_append rest
  rw [schemeOf?, hwrite, hclean, h.scheme?_append]
  rfl

end

section
variable {base text w scheme : List Char}

theorem hasScheme_iff_schemeOf? : hasScheme text = true ↔ ∃ name, schemeOf? text = some name := by
  rw [hasScheme, schemeOf?, ← Option.isSome_iff_exists, Option.isSome_map]

theorem scheme_of_read {given : List Char} {x : Url} (h : read given text = .ok x) :
    x.scheme = (schemeOf? text).getD given := read_scheme h

/-- A text with a scheme, or without a base, only has to be one that can be taken apart. -/
theorem absolute_kept (h : hasScheme text = true ∨ base = []) :
    absolute base text = (read [] text).map fun _ => text := by
  rw [absolute]
  cases hr : read [] text with
  | error cause => rfl
  | ok u =>
    have hkeeps : (!u.scheme.isEmpty || base.isEmpty) = true := by
      rcases h with h | rfl
      · simpa using Or.inl ((hasScheme_iff hr).1 h)
      · simp
    rw [ok_bind, if_pos hkeeps]
    rfl

theorem joins_of_absolute (hne : text ≠ []) (hopen : schemeOf? text = none)
    (hbase : schemeOf? base = some scheme) (hrelative : schemeIn relativeSchemes scheme = true)
    (h : absolute base text = .ok w) :
    ∃ b u, Joins base text b u ∧ w = (resolve b u).write := by
  have hb : base ≠ [] := by
    rintro rfl
    contradiction
  obtain ⟨v, hv, h⟩ := bind_eq_ok.1 h
  have hv : v.scheme = [] := by rw [scheme_of_read hv, hopen]; rfl
  rw [if_neg (by simp [hv, hb])] at h
  rw [joinTo, if_neg (by simpa using hb), if_neg (by simpa using hne)] at h
  obtain ⟨b, hb, h⟩ := bind_eq_ok.1 h
  obtain ⟨u, hu, h⟩ := bind_eq_ok.1 h
  have hbs : b.scheme = scheme := by rw [scheme_of_read hb, hbase]; rfl
  have hus : u.scheme = b.scheme := by rw [scheme_of_read hu, hopen]; rfl
  have hin : schemeIn relativeSchemes u.scheme = true := by rwa [hus, hbs]
  rw [hin, if_neg (by simpa using hus)] at h
  exact ⟨b, u, ⟨hb, hu, hus, hin⟩, (Except.ok.inj h).symm⟩

/-- What is resolved has the scheme of its own text, or else that of the base. -/
theorem schemeOf?_absolute (hbase : schemeOf? base = some scheme)
    (hrelative : schemeIn relativeSchemes scheme = true) (h : absolute base text = .ok w) :
    schemeOf? w = some ((schemeOf? text).getD scheme) := by
  cases htext : schemeOf? text with
  | some name =>
    have hkept : absolute base text = (read [] text).map fun _ => text :=
      absolute_kept (.inl (hasScheme_iff_schemeOf?.2 ⟨name, htext⟩))
    rw [h] at hkept
    cases hr : read [] text with
    | error cause => simp [hr, Except.map] at hkept
    | ok u =>
      rw [hr] at hkept
      obtain rfl : w = text := Except.ok.inj hkept
      exact htext
  | none =>
    by_cases hne : text = []
    · -- the empty reference stands for the base as it is written
      subst hne
      have hb : base ≠ [] := by
        rintro rfl
        contradiction
      obtain ⟨v, hv, h⟩ := bind_eq_ok.1 h
      have hv : v.scheme = [] := by rw [scheme_of_read hv, htext]; rfl
      rw [if_neg (by simp [hv, hb]), joinTo, if_neg (by simpa using hb)] at h
      obtain rfl : base = w := Except.ok.inj h
      exact hbase
    · obtain ⟨b, u, hjoins, rfl⟩ := joins_of_absolute hne htext hbase hrelative h
      have hscheme : (resolve b u).scheme = scheme := by
        rw [resolve_scheme, hjoins.scheme, scheme_of_read hjoins.base, hbase]
        rfl
      rw [schemeOf?_write (hscheme ▸ isScheme_of_schemeOf? hbase), hscheme]
      rfl

end
end Url

namespace Context
variable {base : Option String}

def kept (text : String) : Except Fault Value :=
  match Url.read [] text.toList with
  | .ok _ => .ok (.text text)
  | .error cause => .error (.url cause)

theorem resolve_kept {text : String}
    (h : Url.hasScheme text.toList = true ∨ base.getD "" = "") :
    resolve base (.text text) = kept text := by
  have hbase : Url.hasScheme text.toList = true ∨ (base.getD "").toList = [] :=
    h.imp_right fun hnone => by rw [hnone]; rfl
  unfold resolve kept
  dsimp only
  rw [Url.absolute_kept hbase]
  cases Url.read [] text.toList with
  | error cause => rfl
  | ok u => exact congrArg (fun s => Except.ok (Value.text s)) String.ofList_toList

/-- A reference with a scheme, or without a base, is kept as it is. Against a base whose scheme has
relative references, what a reference is resolved to has a scheme, its own or that of the base, and
every other base keeps it. -/
theorem resolve_settles (base : Option String) (reference : String) :
    (Url.hasScheme reference.toList = true ∨ base.getD "" = "" →
        resolve base (.text reference) = kept reference) ∧
      ∀ scheme w, Url.schemeOf? (base.getD "").toList = some scheme →
        Url.schemeIn Url.relativeSchemes scheme = true →
        resolve base (.text reference) = .ok w →
        ∃ url name, w = .text url ∧ name = (Url.schemeOf? reference.toList).getD scheme ∧
          name ≠ [] ∧ Url.schemeOf? url.toList = some name ∧
          (∀ parts, Url.read [] url.toList = .ok parts → parts.scheme = name) ∧
          ∀ other, resolve other w = kept url := by
  refine ⟨resolve_kept, ?_⟩
  intro scheme w hbase hrelative h
  obtain ⟨r, hr, rfl⟩ := of_resolve_text h
  have hscheme := Url.schemeOf?_absolute hbase hrelative hr
  rw [← String.toList_ofList (l := r)] at hscheme
  refine ⟨String.ofList r, _, rfl, rfl, (Url.isScheme_of_schemeOf? hscheme).ne_nil, hscheme, ?_, ?_⟩
  · intro parts hparts
    rw [Url.scheme_of_read hparts, hscheme]
    rfl
  · intro other
    exact resolve_kept (.inl (Url.hasScheme_iff_schemeOf?.2 ⟨_, hscheme⟩))

/-- A colon in a reference is no end of a scheme if dots and a slash stand before it. -/
theorem resolve_settles_dots :
    resolve (some "http://h/a/b?q") (.text "../c:d#f") = .ok (.text "http://h/c:d#f") ∧
      Url.schemeOf? "../c:d#f".toList = none ∧
      Url.schemeOf? "http://h/c:d#f".toList = some "http".toList ∧
      resolve (some "ftp://other/") (.text "http://h/c:d#f") = .ok (.text "http://h/c:d#f") := by
  have h : resolve (some "http://h/a/b?q") (.text "../c:d#f") = .ok (.text "http://h/c:d#f") := by
    rfl
  have hopen : Url.schemeOf? "../c:d#f".toList = none := by decide
  obtain ⟨url, name, hurl, rfl, -, hscheme, -, hagain⟩ :=
    (resolve_settles (some "http://h/a/b?q") "../c:d#f").2 "http".toList _ (by decide) (by decide) h
  obtain rfl := Value.text.inj hurl
  rw [hopen] at hscheme
  exact ⟨h, hopen, hscheme, hagain (some "ftp://other/")⟩

end Context
end LinkPreview
