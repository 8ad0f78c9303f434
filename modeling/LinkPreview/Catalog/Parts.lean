import LinkPreview.IconSize
import LinkPreview.Rule.Basic
import LinkPreview.Url.Join

set_option autoImplicit false

namespace LinkPreview

def Value.asText : Value → Except Fault String
  | .text s => .ok s
  | _ => .error .missingOperation

namespace Context

/-- Resolves a reference that is a text. In the place of a value that counts as false the base is
returned. -/
def resolve (base : Option String) (reference : Value) : Except Fault Value :=
  let base := base.getD ""
  match reference with
  | .text s =>
    match Url.absolute base.toList s.toList with
    | .ok url => .ok (.text (String.ofList url))
    | .error cause => .error (.url cause)
  | _ =>
    if !reference.isFalsy then .error .missingOperation
    else .ok (if base.isEmpty then reference else .text base)

def hostOf (url : Value) : Except Fault Value :=
  match url with
  | .text s =>
    match Url.hostOf s.toList with
    | .ok host => .ok (Value.ofText? (host.map String.ofList))
    | .error cause => .error (.url cause)
  | _ => if url.isFalsy then .ok .null else .error .missingOperation

def ofUrl (url : Option String) : Context := ⟨url, resolve, hostOf⟩

end Context

namespace Target

/-- The document as a whole, so that the rule always applies. -/
def root : Target := .function fun page => .ok [page]

end Target

namespace Extractor

def ofAttribute (key : String) : Extractor := fun element =>
  .ok (Value.ofText? ((element.attribute? key).map Attribute.text))

def text : Extractor := fun element => .ok (.text element.text)

def constant (value : Value) : Extractor := fun _ => .ok value

end Extractor

namespace Processor

def strip : Processor := fun value _ =>
  match value with
  | .text s => .ok (.text (Text.strip s))
  | _ => .ok value

def resolveUrl : Processor := fun value context =>
  match context.url with
  | none => .ok value
  | some url => if url.isEmpty then .ok value else context.absolute (some url) value

def keywordsOf (s : String) : List String :=
  (((Text.splitAt ',' s.toList).map Text.trim).filter (!·.isEmpty)).map String.ofList

def splitKeywords : Processor := fun value _ => do return Value.texts (keywordsOf (← value.asText))

def primaryLanguage : Processor := fun value _ => do
  return .text (String.ofList (Text.before '-' (← value.asText).toList))

end Processor

namespace Scorer

def iconSize : Scorer := fun _ element => do
  match element.attribute? "sizes" with
  | none => return some (.whole 0)
  | some sizes => return some (← IconSize.score sizes.text.toList)

end Scorer
end LinkPreview
