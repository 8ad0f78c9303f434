import LinkPreview.Text.Case
import LinkPreview.Url.Address

set_option autoImplicit false

namespace LinkPreview

inductive Url.Fault where
  | brackets
  | futureAddress
  | notAddress (host : List Char)
  | bracketedIPv4
  | confusable (authority : List Char)
  deriving DecidableEq, Repr

/-- An absent part is empty. -/
structure Url where
  scheme : List Char
  authority : List Char
  path : List Char
  params : List Char
  query : List Char
  fragment : List Char
  deriving DecidableEq, Repr

namespace Url
open Text

/-- Schemes whose references are resolved against a base. -/
def relativeSchemes : List String :=
  ["", "ftp", "http", "gopher", "nntp", "imap", "wais", "file", "https", "shttp", "mms",
    "prospero", "rtsp", "rtspu", "sftp", "svn", "svn+ssh", "ws", "wss"]

def authoritySchemes : List String :=
  ["", "ftp", "http", "gopher", "nntp", "telnet", "imap", "wais", "file", "mms", "https", "shttp",
    "snews", "prospero", "rtsp", "rtspu", "rsync", "svn", "svn+ssh", "sftp", "nfs", "git",
    "git+ssh", "ws", "wss"]

def paramSchemes : List String :=
  ["", "ftp", "hdl", "prospero", "http", "imap", "https", "shttp", "rtsp", "rtspu", "sip", "sips",
    "mms", "sftp", "tel"]

def schemeIn (schemes : List String) (scheme : List Char) : Bool :=
  schemes.contains (String.ofList scheme)

/-- Controls and spaces in front, and all tabs and line breaks, are no part of a URL. -/
def clean (cs : List Char) : List Char :=
  (cs.dropWhile (·.toNat ≤ 32)).filter fun c => c != '\t' && c != '\n' && c != '\r'

def isSchemeChar (c : Char) : Bool := c.isAlphanum || c == '+' || c == '-' || c == '.'

def scheme? (cs : List Char) : Option (List Char × List Char) :=
  let name := before ':' cs
  if cs.contains ':' && (name.head?.any Char.isAlpha) && name.all isSchemeChar then
    some (asciiLower name, after ':' cs)
  else none

def endsAuthority (c : Char) : Bool := c == '/' || c == '?' || c == '#'

def takeAuthority : List Char → List Char × List Char
  | '/' :: '/' :: cs => (cs.takeWhile (!endsAuthority ·), cs.dropWhile (!endsAuthority ·))
  | cs => ([], cs)

def checkHost (host : List Char) : Except Fault Unit :=
  if host.head? = some 'v' then
    if isFutureAddress host then .ok () else .error .futureAddress
  else if isIPv4 host then .error .bracketedIPv4
  else if isIPv6 host then .ok ()
  else .error (.notAddress host)

def checkBrackets (authority : List Char) : Except Fault Unit :=
  if authority.contains '[' != authority.contains ']' then .error .brackets
  else if authority.contains '[' then
    let place := afterLast '@' authority
    if place.contains '[' then
      let tail := after ']' (after '[' place)
      if !(before '[' place).isEmpty || (!tail.isEmpty && tail.head? != some ':') then
        .error .brackets
      else checkHost (before ']' (after '[' place))
    else checkHost (before ':' place)
  else .ok ()

/-- Characters whose compatibility form holds a delimiter. -/
def confusables : List Char :=
  ['\u2047', '\u2048', '\u2049', '\u2100', '\u2101', '\u2105', '\u2106', '\u2A74', '\uFE13',
    '\uFE16', '\uFE55', '\uFE56', '\uFE5F', '\uFE6B', '\uFF03', '\uFF0F', '\uFF1A', '\uFF1F',
    '\uFF20']

def checkAuthority (authority : List Char) : Except Fault Unit :=
  if authority.any confusables.contains then .error (.confusable authority) else .ok ()

def splitParams (path : List Char) : List Char × List Char :=
  let last := afterLast '/' path
  if last.contains ';' then
    (path.take (path.length - last.length) ++ before ';' last, after ';' last)
  else (path, [])

def read (scheme : List Char) (text : List Char) : Except Fault Url := do
  let cs := clean text
  let (scheme, cs) := (scheme? cs).getD (scheme, cs)
  let (authority, cs) := takeAuthority cs
  checkBrackets authority
  let fragment := after '#' cs
  let cs := before '#' cs
  let query := after '?' cs
  let path := before '?' cs
  checkAuthority authority
  let (path, params) := if schemeIn paramSchemes scheme then splitParams path else (path, [])
  return ⟨scheme, authority, path, params, query, fragment⟩

def marked (mark : Char) (part : List Char) : List Char := if part.isEmpty then [] else mark :: part

def writeHierarchy (scheme authority path : List Char) : List Char :=
  if !authority.isEmpty ||
      (!scheme.isEmpty && schemeIn authoritySchemes scheme && path.take 2 != ['/', '/']) then
    let path := if path.isEmpty || path.head? = some '/' then path else '/' :: path
    '/' :: '/' :: authority ++ path
  else path

def write (u : Url) : List Char :=
  (if u.scheme.isEmpty then [] else u.scheme ++ [':']) ++
    writeHierarchy u.scheme u.authority (u.path ++ marked ';' u.params) ++
    marked '?' u.query ++ marked '#' u.fragment

/-- The host in lower case; a zone keeps its case. -/
def host? (u : Url) : Option (List Char) :=
  let place := afterLast '@' u.authority
  let host := if place.contains '[' then before ']' (after '[' place) else before ':' place
  if host.isEmpty then none
  else some (lower (before '%' host) ++ host.dropWhile (· != '%'))

end Url
end LinkPreview
