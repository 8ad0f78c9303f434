import LinkPreview.Rule.Matcher

set_option autoImplicit false

namespace LinkPreview

inductive Event where
  | reading (length : Nat)
  | started (url : Option String) (fields : List String)
  | matched (ruleset : String) (found : Match) (url : Option String)
  | urlFilled (url : String)
  /-- A provider derived from the host of the page fills the field for it. -/
  | providerFilled (url : String) (provider : Value)
  | extracted (url : Option String) (present missing : List String)
  deriving Repr

/-- A computation that reports events, and may end in a fault. The events up to the fault are
kept. -/
structure Traced (α : Type) where
  events : List Event
  result : Except Fault α

namespace Traced
variable {α β : Type}

def emit (event : Event) : Traced Unit := ⟨[event], .ok ()⟩

def ofExcept (result : Except Fault α) : Traced α := ⟨[], result⟩

def andThen (first : Traced α) (next : α → Traced β) : Traced β :=
  match first.result with
  | .error fault => ⟨first.events, .error fault⟩
  | .ok a => ⟨first.events ++ (next a).events, (next a).result⟩

instance : Monad Traced where
  pure a := ⟨[], .ok a⟩
  bind := andThen

@[simp] theorem pure_events (a : α) : (pure a : Traced α).events = [] := rfl

@[simp] theorem pure_result (a : α) : (pure a : Traced α).result = .ok a := rfl

theorem bind_of_ok {first : Traced α} {a : α} (next : α → Traced β) (h : first.result = .ok a) :
    (first >>= next) = ⟨first.events ++ (next a).events, (next a).result⟩ := by
  show first.andThen next = _
  simp [andThen, h]

theorem bind_of_error {first : Traced α} {fault : Fault} (next : α → Traced β)
    (h : first.result = .error fault) : (first >>= next) = ⟨first.events, .error fault⟩ := by
  show first.andThen next = _
  simp [andThen, h]

end Traced
end LinkPreview
