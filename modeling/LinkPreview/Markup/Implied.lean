set_option autoImplicit false

namespace LinkPreview.Markup

def isVoid (name : String) : Bool :=
  ["area", "base", "basefont", "br", "col", "embed", "frame", "hr", "img", "input", "link", "meta",
    "param", "source", "track", "wbr"].contains name

def headings : List String := ["h1", "h2", "h3", "h4", "h5", "h6"]

/-- The elements that end where an element of one of the other names starts. -/
def closings : List (List String × List String) := [
  (["a"], ["a", "fieldset", "table", "td", "th"]),
  (["address", "dir", "menu"], ["dd", "dl", "dt", "form", "li", "ul"]),
  (["b", "font"], ["center", "p", "td", "th"]),
  (["big", "s", "small", "strike", "tt"], ["p"]),
  (["caption", "col"], ["col", "colgroup", "tbody", "tfoot", "thead", "tr"]),
  (["colgroup"], ["colgroup", "tbody", "tfoot", "thead", "tr"]),
  (["dd"], ["dt"]),
  (["dl"], ["form", "li"]),
  (["dt"], ["dd", "dl"]),
  (["form"], ["form"]),
  (headings, ["fieldset", "form", "li", "p", "table"]),
  (["head"], headings ++ [
    "a", "abbr", "acronym", "address", "b", "bdo", "big", "blockquote", "body", "br", "center",
    "cite", "code", "dd", "dfn", "dir", "div", "dl", "dt", "em", "fieldset", "font", "form",
    "frameset", "hr", "i", "iframe", "img", "kbd", "li", "listing", "map", "menu", "ol", "p",
    "pre", "q", "s", "samp", "small", "span", "strike", "strong", "sub", "sup", "table", "tt",
    "u", "ul", "var", "xmp"]),
  (["hr", "ol"], ["form"]),
  (["i"], ["center"]),
  (["legend"], ["fieldset"]),
  (["li"], ["li"]),
  (["link", "style", "title"], ["body", "frameset"]),
  (["listing", "pre", "xmp"], ["dd", "dl", "dt", "fieldset", "form", "li", "table", "ul"]),
  (["option"], ["optgroup", "option"]),
  (["p"], headings ++ [
    "address", "blockquote", "body", "caption", "center", "col", "colgroup", "dd", "dir", "div",
    "dl", "dt", "fieldset", "form", "frameset", "head", "hr", "li", "listing", "menu", "ol", "p",
    "pre", "table", "tbody", "td", "tfoot", "th", "title", "tr", "ul", "xmp"]),
  (["script"], ["noscript"]),
  (["span", "u"], ["td", "th"]),
  (["tbody"], ["tbody", "tfoot"]),
  (["td", "th"], ["tbody", "td", "tfoot", "th", "tr"]),
  (["tfoot"], ["tbody"]),
  (["thead"], ["tbody", "tfoot"]),
  (["tr"], ["tbody", "tfoot", "tr"]),
  (["ul"], ["address", "form", "menu", "ol", "pre"])]

def endsBefore (current next : String) : Bool :=
  closings.any fun (ended, started) => ended.contains current && started.contains next

/-- How firmly an element stays open when the end tag of one around it is met. -/
def firmness (name : String) : Nat :=
  if name = "div" then 150
  else if ["td", "th"].contains name then 160
  else if name = "tr" then 170
  else if ["tbody", "tfoot", "thead"].contains name then 180
  else if name = "table" then 190
  else if ["head", "body"].contains name then 200
  else if name = "html" then 220
  else 100

def belongsToHead (name : String) : Bool :=
  ["base", "link", "meta", "script", "style", "title"].contains name

def standsOutsideBody (name : String) : Bool :=
  ["body", "frame", "frameset", "head", "html", "noframes"].contains name

end LinkPreview.Markup
