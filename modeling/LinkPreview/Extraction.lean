import LinkPreview.Event
import LinkPreview.Provider

/-! Extraction of the fields of a page: a tree of rule sets is run on its document, and fields
for the URL and the provider that the document leaves open are filled from the URL of the page. -/
set_option autoImplicit false

namespace LinkPreview

/-- Rule sets under names, in groups within groups, with values that are carried over as they
are. -/
inductive RuleTree where
  | empty
  | rules (key : String) (set : RuleSet) (rest : RuleTree)
  | group (key : String) (inner rest : RuleTree)
  | value (key : String) (value : Value) (rest : RuleTree)

inductive RuleNode where
  | rules (set : RuleSet)
  | group (inner : RuleTree)
  | value (value : Value)

namespace RuleTree

def cons (key : String) : RuleNode → RuleTree → RuleTree
  | .rules set, rest => .rules key set rest
  | .group inner, rest => .group key inner rest
  | .value v, rest => .value key v rest

def keys : RuleTree → List String
  | .empty => []
  | .rules key _ rest | .group key _ rest | .value key _ rest => key :: rest.keys

def get? (key : String) : RuleTree → Option RuleNode
  | .empty => none
  | .rules k set rest => if k = key then some (.rules set) else rest.get? key
  | .group k inner rest => if k = key then some (.group inner) else rest.get? key
  | .value k v rest => if k = key then some (.value v) else rest.get? key

def put (key : String) (node : RuleNode) : RuleTree → RuleTree
  | .empty => cons key node .empty
  | .rules k set rest => if k = key then cons key node rest else .rules k set (rest.put key node)
  | .group k inner rest =>
    if k = key then cons key node rest else .group k inner (rest.put key node)
  | .value k v rest => if k = key then cons key node rest else .value k v (rest.put key node)

/-- Of nodes with one name, the last counts, at the place of the first. -/
def ofList (nodes : List (String × RuleNode)) : RuleTree :=
  nodes.foldl (fun tree (key, node) => tree.put key node) .empty

def hasRules (tree : RuleTree) (key : String) : Bool :=
  match tree.get? key with
  | some (.rules _) => true
  | _ => false

def runRules (page : Place) (context : Context) (set : RuleSet) : Traced (Option Value) := do
  let matcher ← .ofExcept set.build
  match ← .ofExcept (matcher.run page context) with
  | none => return none
  | some found =>
    .emit (.matched set.name found context.url)
    return some found.value

/-- Runs all rule sets in order. Fields without a value are left out; groups are kept. -/
def resolve (page : Place) (context : Context) : RuleTree → Traced Fields
  | .empty => return []
  | .rules key set rest => do
    let found ← runRules page context set
    let others ← rest.resolve page context
    return match found with
      | none => others
      | some v => (key, v) :: others
  | .group key inner rest => do
    let fields ← inner.resolve page context
    let others ← rest.resolve page context
    return (key, .record fields) :: others
  | .value key v rest => do
    let others ← rest.resolve page context
    return (key, v) :: others

def fieldsOf : Option Value → Fields
  | some (.record fields) => fields
  | _ => []

/-- The rule sets without a value among the fields, by their names with those of the groups around
them in front, and dots between. -/
def missing (path : String) (fields : Fields) : RuleTree → List String
  | .empty => []
  | .rules key _ rest =>
    (if fields.has key then [] else [path ++ key]) ++ rest.missing path fields
  | .group key inner rest =>
    inner.missing (path ++ key ++ ".") (fieldsOf (fields.get? key)) ++ rest.missing path fields
  | .value _ _ rest => rest.missing path fields

end RuleTree

namespace Extraction

def fillUrl (url : String) (fields : Fields) : Traced Fields :=
  if url.isEmpty || fields.has "url" then return fields
  else do
    .emit (.urlFilled url)
    return fields ++ [("url", .text url)]

def fillProvider (context : Context) (tree : RuleTree) (url : String) (fields : Fields) :
    Traced Fields :=
  if url.isEmpty || !tree.hasRules "provider" || fields.has "provider" then return fields
  else do
    let provider ← .ofExcept (do Provider.ofValue (← context.host (.text url)))
    if provider.isFalsy then return fields
    .emit (.providerFilled url provider)
    return fields ++ [("provider", provider)]

def sorted (names : List String) : List String := names.mergeSort fun a b => !(b < a)

end Extraction

def extract (page : Place) (context : Context) (tree : RuleTree) : Traced Fields := do
  .emit (.started context.url tree.keys)
  let fields ← tree.resolve page context
  let url := context.url.getD ""
  let fields ← Extraction.fillUrl url fields
  let fields ← Extraction.fillProvider context tree url fields
  .emit (.extracted context.url (Extraction.sorted fields.keys) (tree.missing "" fields))
  return fields

end LinkPreview
