import LinkPreview.Proofs.Extraction.Tree

set_option autoImplicit false

namespace LinkPreview

namespace Fields

/-- Fields with a value at the end, if there is one and its name has none so far. -/
def fill (key : String) (value : Option Value) (fields : Fields) : Fields :=
  if fields.has key then fields else fields ++ value.toList.map fun v => (key, v)

theorem fill_none (key : String) (fields : Fields) : fields.fill key none = fields := by
  unfold fill
  split
  · rfl
  · exact List.append_nil fields

theorem fill_some (key : String) (v : Value) (fields : Fields) :
    fields.fill key (some v) = if fields.has key then fields else fields ++ [(key, v)] := rfl

theorem has_eq_isSome (fields : Fields) (key : String) :
    fields.has key = (fields.get? key).isSome := by
  induction fields with
  | nil => rfl
  | cons field others ih =>
    obtain ⟨k, v⟩ := field
    rw [get?_cons]
    by_cases h : key = k
    · simp [has, h]
    · rw [if_neg h, ← ih]
      simp [has, Ne.symm h]

theorem has_eq_true_iff {fields : Fields} {key : String} :
    fields.has key = true ↔ key ∈ fields.keys := by
  rw [has_eq_isSome, Option.isSome_iff_ne_none, Ne, get?_eq_none_iff, Decidable.not_not]

theorem has_eq_false_iff {fields : Fields} {key : String} :
    fields.has key = false ↔ key ∉ fields.keys := by
  rw [← Bool.not_eq_true, has_eq_true_iff]

theorem get?_fill (key : String) (value : Option Value) (fields : Fields) (k : String) :
    (fields.fill key value).get? k = (fields.get? k).or (if k = key then value else none) := by
  unfold fill
  cases hb : fields.has key with
  | true =>
    rw [has_eq_isSome] at hb
    by_cases h : k = key
    · subst h
      obtain ⟨v, hv⟩ := Option.isSome_iff_exists.1 hb
      simp [hv]
    · simp [h]
  | false =>
    simp only [get?, Bool.false_eq_true, if_false, List.lookup_append]
    by_cases h : k = key
    · subst h
      cases value <;> simp
    · have hne : (k == key) = false := by simpa using h
      cases value <;> simp [h, hne, List.lookup_cons]

theorem get?_fill_self (key : String) (value : Option Value) (fields : Fields) :
    (fields.fill key value).get? key = (fields.get? key).or value := by
  rw [get?_fill, if_pos rfl]

theorem get?_fill_of_ne {key k : String} (value : Option Value) (fields : Fields) (h : k ≠ key) :
    (fields.fill key value).get? k = fields.get? k := by
  rw [get?_fill, if_neg h, Option.or_none]

theorem get?_replaced (key : String) (v : Value) (fields : Fields) (k : String) :
    get? (fields.map fun (name, w) => if name == key then (name, v) else (name, w)) k =
      if k = key then (fields.get? key).map fun _ => v else fields.get? k := by
  induction fields with
  | nil => simp
  | cons field others ih =>
    obtain ⟨name, w⟩ := field
    by_cases hname : name = key
    · subst hname
      simp only [List.map_cons, beq_self_eq_true, if_true, get?_cons, ih]
      split <;> simp [*]
    · simp only [List.map_cons, beq_eq_false_iff_ne.2 hname, Bool.false_eq_true, if_false,
        get?_cons, ih, Ne.symm hname]
      by_cases hk : k = name <;> simp [hk, hname]

theorem get?_put (key : String) (v : Value) (fields : Fields) (k : String) :
    (fields.put key v).get? k = if k = key then some v else fields.get? k := by
  unfold put
  cases hb : fields.has key with
  | true =>
    rw [has_eq_isSome] at hb
    obtain ⟨w, hw⟩ := Option.isSome_iff_exists.1 hb
    rw [if_pos rfl, get?_replaced, hw]
    rfl
  | false =>
    have hfill : fields ++ [(key, v)] = fields.fill key (some v) := by rw [fill_some, hb]; rfl
    rw [if_neg Bool.false_ne_true, hfill, get?_fill]
    by_cases hk : k = key
    · subst hk
      rw [has_eq_false_iff, ← get?_eq_none_iff] at hb
      simp [hb]
    · simp [hk]

theorem mem_keys_fill {key k : String} {value : Option Value} {fields : Fields}
    (h : k ∈ (fields.fill key value).keys) : k ∈ fields.keys ∨ k = key := by
  by_cases hk : k = key
  · exact .inr hk
  · refine .inl (Decidable.byContradiction fun hn => ?_)
    have hnone := get?_eq_none_iff.2 hn
    rw [← get?_fill_of_ne value fields hk] at hnone
    exact get?_eq_none_iff.1 hnone h

theorem nodup_keys_fill {key : String} {value : Option Value} {fields : Fields}
    (h : fields.keys.Nodup) : (fields.fill key value).keys.Nodup := by
  unfold fill
  cases hb : fields.has key with
  | true => exact h
  | false =>
    have hmem : key ∉ fields.keys := has_eq_false_iff.1 hb
    cases value with
    | none => simpa using h
    | some v =>
      have hkeys : (fields ++ [(key, v)]).keys = fields.keys ++ [key] := by simp [keys]
      show (fields ++ [(key, v)]).keys.Nodup
      rw [hkeys, List.nodup_append]
      refine ⟨h, by simp, ?_⟩
      intro k hk j hj he
      rw [List.mem_singleton.1 hj] at he
      exact hmem (he ▸ hk)

/-- The value that stands under a name in the end but not at first. -/
def added (base found : Fields) (key : String) : Option Value :=
  if key ∈ base.keys then none else found.get? key

end Fields

theorem RuleTree.hasRules_eq_true_iff {tree : RuleTree} {key : String} :
    tree.hasRules key = true ↔ ∃ set, tree.get? key = some (.rules set) := by
  unfold hasRules
  split
  case h_1 set hset => simp [hset]
  case h_2 hother =>
    simp only [Bool.false_eq_true, false_iff, not_exists]
    exact hother

namespace Extraction

def urlValue (url : String) : Option Value := if url.isEmpty then none else some (.text url)

/-- The provider derived for fields that have none, if the tree asks for one by a rule set. -/
def derive (context : Context) (tree : RuleTree) (url : String) (fields : Fields) :
    Except Fault (Option Value) :=
  if url.isEmpty || !tree.hasRules "provider" || fields.has "provider" then .ok none
  else do
    let provider ← context.host (.text url) >>= Provider.ofValue
    return if provider.isFalsy then none else some provider

def urlEvents (url : String) (fields : Fields) : List Event :=
  if url.isEmpty || fields.has "url" then [] else [.urlFilled url]

theorem fillUrl_eq (url : String) (fields : Fields) :
    fillUrl url fields = ⟨urlEvents url fields, .ok (fields.fill "url" (urlValue url))⟩ := by
  unfold fillUrl urlEvents urlValue
  cases url.isEmpty with
  | true =>
    rw [if_pos rfl, Fields.fill_none]
    rfl
  | false =>
    rw [if_neg Bool.false_ne_true, Fields.fill_some]
    cases fields.has "url" <;> rfl

theorem fillProvider_eq (context : Context) (tree : RuleTree) (url : String) (fields : Fields) :
    fillProvider context tree url fields =
      Traced.ofExcept (derive context tree url fields) >>= fun value =>
        ⟨value.toList.map (.providerFilled url), .ok (fields.fill "provider" value)⟩ := by
  unfold fillProvider derive
  by_cases hclosed : (url.isEmpty || !tree.hasRules "provider" || fields.has "provider") = true
  · rw [if_pos hclosed, if_pos hclosed, Traced.ofExcept_ok_bind, Fields.fill_none]
    rfl
  · have hp : fields.has "provider" = false := by
      simp only [Bool.or_eq_true, not_or, Bool.not_eq_true] at hclosed
      exact hclosed.2
    rw [if_neg hclosed, if_neg hclosed]
    show (Traced.ofExcept (context.host (.text url) >>= Provider.ofValue) >>= _) = _
    cases context.host (.text url) >>= Provider.ofValue with
    | error fault => rfl
    | ok provider =>
      rw [Traced.ofExcept_ok_bind, ok_bind]
      cases provider.isFalsy with
      | true =>
        rw [if_pos rfl, if_pos rfl, pure_eq_ok, Traced.ofExcept_ok_bind, Fields.fill_none]
        rfl
      | false =>
        rw [if_neg Bool.false_ne_true, if_neg Bool.false_ne_true, pure_eq_ok,
          Traced.ofExcept_ok_bind, Fields.fill_some, hp]
        rfl

theorem derive_fill_url (context : Context) (tree : RuleTree) (url : String) (fields : Fields)
    (value : Option Value) :
    derive context tree url (fields.fill "url" value) = derive context tree url fields := by
  have hsame : (fields.fill "url" value).has "provider" = fields.has "provider" := by
    rw [Fields.has_eq_isSome, Fields.has_eq_isSome, Fields.get?_fill_of_ne _ _ (by decide)]
  rw [derive, derive, hsame]

section
variable {context : Context} {tree : RuleTree} {url : String} {fields : Fields}

theorem fillUrl_result (h : url.isEmpty = false) :
    (fillUrl url fields).result = .ok (fields.fill "url" (some (.text url))) := by
  rw [fillUrl_eq, urlValue, h]
  rfl

theorem of_fillProvider {filled : Fields} (hu : url.isEmpty = false)
    (ht : tree.hasRules "provider" = true)
    (h : (fillProvider context tree url fields).result = .ok filled) :
    ∃ value, filled = fields.fill "provider" value ∧
      (fields.has "provider" = false →
        ∃ provider, (context.host (.text url) >>= Provider.ofValue) = .ok provider ∧
          value = if provider.isFalsy then none else some provider) := by
  rw [fillProvider_eq, Traced.result_bind, bind_eq_ok] at h
  obtain ⟨value, hv, h⟩ := h
  refine ⟨value, (Except.ok.inj h).symm, ?_⟩
  intro hp
  simp only [Traced.ofExcept_result, derive, hu, ht, hp, Bool.not_true, Bool.or_false,
    Bool.false_eq_true, if_false] at hv
  obtain ⟨provider, ho, hv⟩ := bind_eq_ok.1 hv
  exact ⟨provider, ho, (Except.ok.inj hv).symm⟩

end

/-- The case in which the host of a page at a URL is asked for to derive its provider. -/
structure AsksHost (context : Context) (tree : RuleTree) (base : Fields) (url : String) :
    Prop where
  page : context.url = some url
  not_empty : url ≠ ""
  rules : ∃ set, tree.get? "provider" = some (.rules set)
  absent : "provider" ∉ base.keys

section
variable {context : Context} {tree : RuleTree} {base : Fields} {url : String}

theorem derive_of_asksHost (h : AsksHost context tree base url) :
    derive context tree (context.url.getD "") base = do
      let provider ← context.host (.text url) >>= Provider.ofValue
      return if provider.isFalsy then none else some provider := by
  have hu : url.isEmpty = false := by simpa using h.not_empty
  have ht : tree.hasRules "provider" = true := RuleTree.hasRules_eq_true_iff.2 h.rules
  have hp : base.has "provider" = false := Fields.has_eq_false_iff.2 h.absent
  simp [derive, h.page, hu, ht, hp]

theorem derive_of_not_asksHost (h : ∀ url, ¬ AsksHost context tree base url) :
    derive context tree (context.url.getD "") base = .ok none := by
  unfold derive
  refine if_pos (Decidable.byContradiction fun hopen => ?_)
  simp only [Bool.or_eq_true, not_or, Bool.not_eq_true', Bool.not_eq_false,
    Fields.has_eq_true_iff, RuleTree.hasRules_eq_true_iff] at hopen
  obtain ⟨⟨hu, ht⟩, hp⟩ := hopen
  cases hc : context.url with
  | none => simp [hc] at hu
  | some url => exact h url ⟨hc, by simpa [hc] using hu, ht, hp⟩

/-- Only a host that is asked for makes a fault or a provider. -/
theorem derive_eq_iff {outcome : Except Fault (Option Value)} (hne : outcome ≠ .ok none) :
    derive context tree (context.url.getD "") base = outcome ↔
      ∃ url, AsksHost context tree base url ∧ (do
        let provider ← context.host (.text url) >>= Provider.ofValue
        return if provider.isFalsy then none else some provider) = outcome := by
  by_cases h : ∃ url, AsksHost context tree base url
  · obtain ⟨url, hask⟩ := h
    rw [derive_of_asksHost hask]
    constructor
    · intro hout
      exact ⟨url, hask, hout⟩
    · intro hex
      obtain ⟨other, hother, hout⟩ := hex
      obtain rfl : url = other := Option.some.inj (hask.page.symm.trans hother.page)
      exact hout
  · rw [derive_of_not_asksHost (not_exists.1 h)]
    constructor
    · intro hout
      exact absurd hout.symm hne
    · intro hex
      obtain ⟨url, hask, -⟩ := hex
      exact absurd ⟨url, hask⟩ h

theorem derive_eq_error_iff {fault : Fault} :
    derive context tree (context.url.getD "") base = .error fault ↔
      ∃ url, AsksHost context tree base url ∧
        (context.host (.text url) = .error fault ∨
          ∃ host, context.host (.text url) = .ok host ∧ Provider.ofValue host = .error fault) := by
  rw [derive_eq_iff (by simp)]
  refine exists_congr fun url => and_congr_right fun _ => ?_
  rw [bind_eq_error, bind_eq_error]
  simp

theorem derive_eq_some_iff {v : Value} :
    derive context tree (context.url.getD "") base = .ok (some v) ↔
      ∃ url, AsksHost context tree base url ∧
        (context.host (.text url) >>= Provider.ofValue) = .ok v ∧ v.isFalsy = false := by
  rw [derive_eq_iff (by simp)]
  refine exists_congr fun url => and_congr_right fun _ => ?_
  rw [bind_eq_ok]
  constructor
  · intro hex
    obtain ⟨provider, ho, hv⟩ := hex
    cases hf : provider.isFalsy with
    | true => simp [hf] at hv
    | false =>
      obtain rfl : provider = v := by simpa [hf] using hv
      exact ⟨ho, hf⟩
  · intro hboth
    obtain ⟨ho, hf⟩ := hboth
    exact ⟨v, ho, by simp [hf]⟩

end

def finish (context : Context) (tree : RuleTree) (base : Fields) : Traced Fields := do
  let url := context.url.getD ""
  let fields ← fillUrl url base
  let fields ← fillProvider context tree url fields
  .emit (.extracted context.url (sorted fields.keys) (tree.missing "" fields))
  return fields

/-- The value for a name that the rule sets leave without one, if `provider` is derived. -/
def fallback (context : Context) (provider : Option Value) (key : String) : Option Value :=
  if key = "url" then urlValue (context.url.getD "")
  else if key = "provider" then provider
  else none

def filled (context : Context) (base : Fields) (provider : Option Value) : Fields :=
  (base.fill "url" (urlValue (context.url.getD ""))).fill "provider" provider

section
variable {context : Context} {tree : RuleTree} {base : Fields}

theorem get?_filled (provider : Option Value) (key : String) :
    (filled context base provider).get? key =
      (base.get? key).or (fallback context provider key) := by
  rw [filled, Fields.get?_fill, Fields.get?_fill, Option.or_assoc, fallback]
  by_cases hu : key = "url"
  · subst hu
    simp
  · simp [hu]

theorem added_filled (provider : Option Value) (key : String) :
    base.added (filled context base provider) key =
      if key ∈ base.keys then none else fallback context provider key := by
  unfold Fields.added
  by_cases hk : key ∈ base.keys
  · rw [if_pos hk, if_pos hk]
  · rw [if_neg hk, if_neg hk, get?_filled, Fields.get?_eq_none_iff.2 hk, Option.none_or]

theorem urlValue_eq_some_iff {v : Value} :
    urlValue (context.url.getD "") = some v ↔
      ∃ url, context.url = some url ∧ url ≠ "" ∧ v = .text url := by
  unfold urlValue
  cases context.url with
  | none => simp
  | some url =>
    by_cases hu : url = ""
    · simp [hu]
    · simp [hu, eq_comm (a := v)]

theorem added_url (provider : Option Value) :
    base.added (filled context base provider) "url" =
      if "url" ∈ base.keys then none else urlValue (context.url.getD "") :=
  added_filled provider "url"

theorem urlEvents_eq (provider : Option Value) :
    urlEvents (context.url.getD "") base =
      (base.added (filled context base provider) "url").toList.map
        fun _ => .urlFilled (context.url.getD "") := by
  rw [added_url, urlEvents, urlValue]
  by_cases hb : "url" ∈ base.keys
  · simp [Fields.has_eq_true_iff.2 hb, hb]
  · rw [Fields.has_eq_false_iff.2 hb, if_neg hb, Bool.or_false]
    split <;> rfl

theorem added_provider {provider : Option Value}
    (h : derive context tree (context.url.getD "") base = .ok provider) :
    base.added (filled context base provider) "provider" = provider := by
  have hself : fallback context provider "provider" = provider := rfl
  rw [added_filled, hself]
  cases provider with
  | none => exact ite_self none
  | some v =>
    obtain ⟨url, hask, -⟩ := derive_eq_some_iff.1 h
    exact if_neg hask.absent

theorem nodup_keys_filled {provider : Option Value} (h : base.keys.Nodup) :
    (filled context base provider).keys.Nodup :=
  Fields.nodup_keys_fill (Fields.nodup_keys_fill h)

theorem finish_of_fault {fault : Fault}
    (h : derive context tree (context.url.getD "") base = .error fault) :
    finish context tree base = ⟨urlEvents (context.url.getD "") base, .error fault⟩ := by
  rw [finish, fillUrl_eq, Traced.bind_of_ok _ rfl, fillProvider_eq, derive_fill_url, h,
    Traced.ofExcept_error_bind, Traced.bind_of_error _ rfl, List.append_nil]

theorem finish_of_derive {provider : Option Value}
    (h : derive context tree (context.url.getD "") base = .ok provider) :
    finish context tree base =
      ⟨urlEvents (context.url.getD "") base ++
          provider.toList.map (.providerFilled (context.url.getD "")) ++
          [.extracted context.url (sorted (filled context base provider).keys)
            (tree.missing "" (filled context base provider))],
        .ok (filled context base provider)⟩ := by
  rw [finish, fillUrl_eq, Traced.bind_of_ok _ rfl, fillProvider_eq, derive_fill_url, h,
    Traced.ofExcept_ok_bind, Traced.bind_of_ok _ rfl, Traced.emit_bind, List.append_assoc]
  rfl

theorem finish_result_eq_error_iff {fault : Fault} :
    (finish context tree base).result = .error fault ↔
      derive context tree (context.url.getD "") base = .error fault := by
  cases h : derive context tree (context.url.getD "") base with
  | error f => simp only [finish_of_fault h, Except.error.injEq]
  | ok provider => simp [finish_of_derive h]

end

end Extraction

section
variable {page : Place} {context : Context} {tree : RuleTree} {base found : Fields}

theorem extract_of_fault {fault : Fault}
    (h : (tree.resolve page context).result = .error fault) :
    extract page context tree =
      ⟨.started context.url tree.keys :: (tree.resolve page context).events, .error fault⟩ := by
  rw [extract, Traced.emit_bind, Traced.bind_of_error _ h]

theorem extract_of_resolve (h : (tree.resolve page context).result = .ok base) :
    extract page context tree =
      ⟨.started context.url tree.keys :: ((tree.resolve page context).events ++
          (Extraction.finish context tree base).events),
        (Extraction.finish context tree base).result⟩ := by
  rw [extract, Traced.emit_bind, Traced.bind_of_ok _ h]
  rfl

theorem extract_result_eq_ok_iff :
    (extract page context tree).result = .ok found ↔
      ∃ base provider, (tree.resolve page context).result = .ok base ∧
        Extraction.derive context tree (context.url.getD "") base = .ok provider ∧
        Extraction.filled context base provider = found := by
  cases hr : (tree.resolve page context).result with
  | error fault =>
    rw [extract_of_fault hr]
    simp
  | ok base =>
    rw [extract_of_resolve hr]
    cases hd : Extraction.derive context tree (context.url.getD "") base with
    | error fault =>
      rw [Extraction.finish_of_fault hd]
      simp [hd]
    | ok provider =>
      rw [Extraction.finish_of_derive hd]
      simp [hd]

end

theorem extract_result (page : Place) (context : Context) (tree : RuleTree) :
    (extract page context tree).result =
      (tree.resolve page context).result >>= fun fields =>
        (Extraction.fillUrl (context.url.getD "") fields).result >>= fun filled =>
          (Extraction.fillProvider context tree (context.url.getD "") filled).result := by
  simp only [extract, Traced.result_bind, Traced.emit_result, ok_bind, Traced.pure_result]
  refine bind_congr fun fields => bind_congr fun filled => ?_
  cases (Extraction.fillProvider context tree (context.url.getD "") filled).result <;> rfl

theorem extract_result_of_url_none {page : Place} {context : Context} {tree : RuleTree}
    (h : context.url = none) :
    (extract page context tree).result = (tree.resolve page context).result := by
  rw [extract_result, h]
  cases (tree.resolve page context).result <;> rfl

end LinkPreview
