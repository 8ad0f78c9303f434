import LinkPreview.Extraction
import LinkPreview.Catalog.Parts

set_option autoImplicit false

namespace LinkPreview.Catalog

inductive Spot where
  | css (selector : String)
  | root
  deriving DecidableEq, Repr

inductive Source where
  | fromAttribute (key : String)
  | fromText
  | always (text : String)
  deriving DecidableEq, Repr

inductive Step where
  | strip
  | resolveUrl
  | splitKeywords
  | primaryLanguage
  deriving DecidableEq, Repr

structure Field where
  name : String
  rules : List (Spot × Source)
  steps : List Step
  scored : Bool
  deriving DecidableEq, Repr

namespace Spot

def target : Spot → Target
  | .css selector => .css selector
  | .root => .root

def description : Spot → String
  | .css selector => selector
  | .root => "document_root"

end Spot

namespace Source

def extractor : Source → Extractor
  | .fromAttribute key => .ofAttribute key
  | .fromText => .text
  | .always text => .constant (.text text)

def description : Source → String
  | .fromAttribute key => "attribute_" ++ key
  | .fromText | .always _ => "extract"

end Source

namespace Step

def processor : Step → Processor
  | .strip => .strip
  | .resolveUrl => .resolveUrl
  | .splitKeywords => .splitKeywords
  | .primaryLanguage => .primaryLanguage

def description : Step → String
  | .strip => "strip_whitespace"
  | .resolveUrl => "resolve_url"
  | .splitKeywords => "split_keywords"
  | .primaryLanguage => "primary_language"

end Step

namespace Field

def scorer? (f : Field) : Option Scorer := if f.scored then some .iconSize else none

def scorerDescription? (f : Field) : Option String :=
  if f.scored then some "score_icon_size" else none

def ruleSet (f : Field) : RuleSet where
  name := f.name
  forms := f.rules.map fun (spot, source) => .rule (some spot.target) (some source.extractor)
  processors := f.steps.map Step.processor
  scorer := f.scorer?

end Field

def content (selector : String) : Spot × Source := (.css selector, .fromAttribute "content")

def href (selector : String) : Spot × Source := (.css selector, .fromAttribute "href")

def description : Field where
  name := "description"
  rules := [
    content "meta[property=\"og:description\"]",
    content "meta[name=\"description\" i]"]
  steps := [.strip]
  scored := false

/-- If a page declares no icon, browsers ask for `favicon.ico`. -/
def iconUrl : Field where
  name := "icon_url"
  rules := [
    href "link[rel=\"apple-touch-icon\"]",
    href "link[rel=\"apple-touch-icon-precomposed\"]",
    href "link[rel=\"icon\" i]",
    href "link[rel=\"fluid-icon\"]",
    href "link[rel=\"shortcut icon\" i]",
    href "link[rel=\"mask-icon\"]",
    (.root, .always "favicon.ico")]
  steps := [.strip, .resolveUrl]
  scored := true

def imageUrl : Field where
  name := "image_url"
  rules := [
    content "meta[property=\"og:image:secure_url\"]",
    content "meta[property=\"og:image:url\"]",
    content "meta[property=\"og:image\"]",
    content "meta[name=\"twitter:image\"]",
    content "meta[property=\"twitter:image\"]",
    content "meta[name=\"thumbnail\"]"]
  steps := [.strip, .resolveUrl]
  scored := false

def keywords : Field where
  name := "keywords"
  rules := [content "meta[name=\"keywords\" i]"]
  steps := [.splitKeywords]
  scored := false

def title : Field where
  name := "title"
  rules := [
    content "meta[property=\"og:title\"]",
    content "meta[name=\"twitter:title\"]",
    content "meta[property=\"twitter:title\"]",
    content "meta[name=\"hdl\"]",
    (.css "title", .fromText)]
  steps := [.strip]
  scored := false

def language : Field where
  name := "language"
  rules := [
    (.css "html[lang]", .fromAttribute "lang"),
    content "meta[name=\"language\" i]"]
  steps := [.strip, .primaryLanguage]
  scored := false

def type : Field where
  name := "type"
  rules := [content "meta[property=\"og:type\"]"]
  steps := [.strip]
  scored := false

def url : Field where
  name := "url"
  rules := [
    href "a.amp-canurl",
    href "link[rel=\"canonical\"]",
    content "meta[property=\"og:url\"]"]
  steps := [.strip, .resolveUrl]
  scored := false

def provider : Field where
  name := "provider"
  rules := [content "meta[property=\"og:site_name\"]"]
  steps := [.strip]
  scored := false

def fields : List Field :=
  [description, iconUrl, imageUrl, keywords, title, language, type, url, provider]

def find? (name : String) : Option Field := fields.find? (·.name == name)

def field (name : String) : Except Fault Field :=
  match find? name with
  | some f => .ok f
  | none => .error (.unknownField name)

def treeOf (fields : List Field) : RuleTree :=
  .ofList (fields.map fun f => (f.name, .rules f.ruleSet))

def tree : RuleTree := treeOf fields

end LinkPreview.Catalog
