import LinkPreview.Url.Parts

set_option autoImplicit false

namespace LinkPreview.Url
open Text

def dropEmptyInner : List (List Char) → List (List Char)
  | [] => []
  | [last] => [last]
  | segment :: next :: more =>
    if segment.isEmpty then dropEmptyInner (next :: more)
    else segment :: dropEmptyInner (next :: more)

def segments (base path : List Char) : List (List Char) :=
  if path.head? = some '/' then splitAt '/' path
  else
    let parts := splitAt '/' base
    let folder := if parts.getLastD [] = [] then parts else parts.dropLast
    match folder ++ splitAt '/' path with
    | [] => []
    | first :: more => first :: dropEmptyInner more

/-- Walks through segments: two dots leave the last one, if there is one, and one dot stays. The
segments passed are in reverse order. -/
def walk (passed : List (List Char)) : List (List Char) → List (List Char)
  | [] => passed.reverse
  | segment :: more =>
    if segment = ['.', '.'] then walk passed.tail more
    else if segment = ['.'] then walk passed more
    else walk (segment :: passed) more

def resolvePath (base path : List Char) : List Char :=
  let all := segments base path
  let last := all.getLastD []
  let walked := walk [] all
  let walked := if last = ['.'] || last = ['.', '.'] then walked ++ [[]] else walked
  let resolved := join ['/'] walked
  if resolved.isEmpty then ['/'] else resolved

def resolve (base url : Url) : Url :=
  if schemeIn authoritySchemes url.scheme && !url.authority.isEmpty then url
  else
    let authority :=
      if schemeIn authoritySchemes url.scheme then base.authority else url.authority
    if url.path.isEmpty && url.params.isEmpty then
      { url with
        authority := authority
        path := base.path
        params := base.params
        query := if url.query.isEmpty then base.query else url.query }
    else { url with authority := authority, path := resolvePath base.path url.path }

def joinTo (base url : List Char) : Except Fault (List Char) := do
  if base.isEmpty then return url
  if url.isEmpty then return base
  let b ← read [] base
  let u ← read b.scheme url
  if u.scheme != b.scheme || !schemeIn relativeSchemes u.scheme then return url
  return (resolve b u).write

/-- A reference with a scheme, or without a base, is kept as it is written. -/
def absolute (base url : List Char) : Except Fault (List Char) := do
  let u ← read [] url
  if !u.scheme.isEmpty || base.isEmpty then return url
  joinTo base url

def hostOf (url : List Char) : Except Fault (Option (List Char)) := do
  if url.isEmpty then return none
  return (← read [] url).host?

end LinkPreview.Url
