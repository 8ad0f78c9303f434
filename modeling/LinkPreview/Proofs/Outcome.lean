import LinkPreview.Event

set_option autoImplicit false

namespace LinkPreview

section Except
variable {ε α β : Type}

@[simp] theorem ok_bind (a : α) (next : α → Except ε β) : (Except.ok a >>= next) = next a := rfl

@[simp] theorem error_bind (fault : ε) (next : α → Except ε β) :
    (Except.error fault >>= next) = .error fault := rfl

@[simp] theorem pure_eq_ok (a : α) : (pure a : Except ε α) = .ok a := rfl

theorem bind_eq_ok {first : Except ε α} {next : α → Except ε β} {b : β} :
    (first >>= next) = .ok b ↔ ∃ a, first = .ok a ∧ next a = .ok b := by
  cases first with
  | ok a => simp
  | error fault => simp

theorem bind_eq_error {first : Except ε α} {next : α → Except ε β} {fault : ε} :
    (first >>= next) = .error fault ↔
      first = .error fault ∨ ∃ a, first = .ok a ∧ next a = .error fault := by
  cases first with
  | ok a => simp
  | error f => simp

/-- If anything found leads elsewhere, nothing was found. -/
theorem search_eq_ok_iff {found : Except ε (Option α)} {next : Option α → Except ε β} {b : β}
    (h : ∀ a, next (some a) ≠ .ok b) :
    (found >>= next) = .ok b ↔ found = .ok none ∧ next none = .ok b := by
  cases found with
  | error fault => simp
  | ok o =>
    cases o with
    | some a => simpa using h a
    | none => simp

theorem exists_of_isOk {x : Except ε α} (h : x.isOk = true) : ∃ a, x = .ok a := by
  cases x with
  | ok a => exact ⟨a, rfl⟩
  | error fault => contradiction

theorem exists_of_eval {x : Except ε α} {f : α → β} {b : β}
    (h : x.toOption.map f = some b) : ∃ a, x = .ok a ∧ f a = b := by
  cases x with
  | ok a => exact ⟨a, rfl, Option.some.inj h⟩
  | error fault => contradiction

/-- Where the second outcome is a result, the first one is a related result. -/
def Follows (R : α → β → Prop) (x : Except ε α) (y : Except ε β) : Prop :=
  ∀ b, y = .ok b → ∃ a, x = .ok a ∧ R a b

theorem follows_ok {R : α → β → Prop} {a : α} {b : β} (h : R a b) :
    Follows (ε := ε) R (.ok a) (.ok b) := by
  intro c hc
  cases hc
  exact ⟨a, rfl, h⟩

theorem follows_self (x : Except ε α) : Follows Eq x x := fun a h => ⟨a, h, rfl⟩

theorem Follows.bind {γ δ : Type} {R : α → β → Prop} {S : γ → δ → Prop} {x : Except ε α}
    {y : Except ε β} {f : α → Except ε γ} {g : β → Except ε δ} (h : Follows R x y)
    (hnext : ∀ a b, R a b → Follows S (f a) (g b)) : Follows S (x >>= f) (y >>= g) := by
  intro d hd
  obtain ⟨b, hb, hg⟩ := bind_eq_ok.1 hd
  obtain ⟨a, rfl, hr⟩ := h b hb
  exact hnext a b hr d hg

/-- Two outcomes that are related results, or the same fault. -/
inductive Agree (R : α → β → Prop) : Except ε α → Except ε β → Prop
  | ok {a : α} {b : β} (h : R a b) : Agree R (.ok a) (.ok b)
  | error (fault : ε) : Agree R (.error fault) (.error fault)

theorem agree_self (x : Except ε α) : Agree Eq x x := by
  cases x with
  | ok a => exact .ok rfl
  | error fault => exact .error fault

theorem Agree.eq {x y : Except ε α} (h : Agree Eq x y) : x = y := by
  cases h with
  | ok he => rw [he]
  | error fault => rfl

theorem Agree.bind {γ δ : Type} {R : α → β → Prop} {S : γ → δ → Prop} {x : Except ε α}
    {y : Except ε β} {f : α → Except ε γ} {g : β → Except ε δ} (h : Agree R x y)
    (hnext : ∀ a b, R a b → Agree S (f a) (g b)) : Agree S (x >>= f) (y >>= g) := by
  cases h with
  | ok hr => exact hnext _ _ hr
  | error fault => exact .error fault

/-- Every fault that an outcome can be is of some kind. -/
def FaultsIn (P : ε → Prop) (x : Except ε α) : Prop := ∀ fault, x = .error fault → P fault

theorem faultsIn_ok (P : ε → Prop) (a : α) : FaultsIn P (.ok a : Except ε α) := by
  intro fault h
  contradiction

theorem FaultsIn.bind {P : ε → Prop} {first : Except ε α} {next : α → Except ε β}
    (h : FaultsIn P first) (hnext : ∀ a, first = .ok a → FaultsIn P (next a)) :
    FaultsIn P (first >>= next) := by
  intro fault hf
  rcases bind_eq_error.1 hf with hfirst | ⟨a, ha, hn⟩
  · exact h fault hfirst
  · exact hnext a ha fault hn

end Except

namespace Traced
variable {α β : Type}

@[simp] theorem emit_result (event : Event) : (emit event).result = .ok () := rfl

@[simp] theorem ofExcept_result (result : Except Fault α) : (ofExcept result).result = result := rfl

/-- Whether there is a result, and which, does not depend on what is reported. -/
@[simp] theorem result_bind (first : Traced α) (next : α → Traced β) :
    (first >>= next).result = first.result >>= fun a => (next a).result := by
  cases h : first.result with
  | ok a => rw [bind_of_ok next h, ok_bind]
  | error fault => rw [bind_of_error next h, error_bind]

@[simp] theorem ofExcept_ok_bind (a : α) (next : α → Traced β) :
    (ofExcept (.ok a) >>= next) = next a := rfl

theorem ofExcept_error_bind (fault : Fault) (next : α → Traced β) :
    (ofExcept (.error fault) >>= next) = ⟨[], .error fault⟩ := rfl

@[simp] theorem emit_bind (event : Event) (next : Unit → Traced β) :
    (emit event >>= next) = ⟨event :: (next ()).events, (next ()).result⟩ := rfl

instance : LawfulMonad Traced := by
  refine LawfulMonad.mk' Traced ?_ ?_ ?_
  case refine_1 =>
    intro α x
    obtain ⟨events, result⟩ := x
    show andThen ⟨events, result⟩ pure = _
    cases result <;> simp [andThen]
  case refine_2 =>
    intro α β a next
    exact bind_of_ok next rfl
  case refine_3 =>
    intro α β γ x f g
    obtain ⟨events, result⟩ := x
    cases result with
    | error fault => rfl
    | ok a =>
      rw [bind_of_ok f rfl, bind_of_ok (fun a => f a >>= g) rfl]
      cases hf : (f a).result with
      | error fault => rw [bind_of_error g rfl, bind_of_error g hf]
      | ok b =>
        rw [bind_of_ok g rfl, bind_of_ok g hf]
        simp only [List.append_assoc]

end Traced
end LinkPreview
