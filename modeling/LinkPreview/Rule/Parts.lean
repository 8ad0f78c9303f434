import LinkPreview.Catalog.Parts

/-! Parts for rule sets that are put together apart from the catalog, to try rules out. -/
set_option autoImplicit false

namespace LinkPreview

namespace Processor

def identity : Processor := fun value _ => .ok value

def always (value : Value) : Processor := fun _ _ => .ok value

def words : Processor := fun value _ => do return Value.texts (Text.wordsOf (← value.asText))

def pageUrl : Processor := fun _ context => .ok (Value.ofText? context.url)

def host : Processor := fun value context => context.host value

def absolute (base : Option String) : Processor := fun value context =>
  context.absolute base value

def append (ending : String) : Processor := fun value _ =>
  match value with
  | .text s => .ok (.text (s ++ ending))
  | _ => .error .mismatch

def drop (unwanted : Value) : Processor := fun value _ =>
  .ok (if value.same unwanted then .null else value)

end Processor

namespace Scorer

def length : Scorer := fun value _ =>
  match value.length? with
  | some n => .ok (some (.whole n))
  | none => .error .mismatch

def table (scores : List (String × Option Number)) (other : Option Number) : Scorer :=
  fun value _ =>
    match value with
    | .text s => .ok ((scores.lookup s).getD other)
    | _ => if value.isKey then .ok other else .error .mismatch

end Scorer
end LinkPreview
