import Blocklist.Engine.Basic
import Blocklist.Filter.Match
/-!
# Engine — decisions on requests

A request that some filter blocks is blocked unless an exception matches it
too. A blocked request may be redirected, and documents may get further
content security policies.
-/

namespace Blocklist

/-- Whether a request may go ahead. -/
inductive Decision where
  | allow
  | block
  deriving DecidableEq, Repr

/-- A decision and what it rests on. -/
structure Verdict where
  /-- The decision. -/
  decision : Decision
  /-- The id of the filter that decided. -/
  filterId : Option UInt32
  /-- The resource to redirect to. -/
  redirect : Option String
  deriving DecidableEq, Repr

namespace Engine

/-- The tokens of a request: the page's host and its parents first, then the words of the address,
as far as they fit. -/
def requestTokens (r : Request) : List UInt32 :=
  let hosts := (Host.suffixes r.sourceHost.toList).map fun host => hashText (String.ofList host)
  let words := Token.ofUrl (Text.utf8 (String.ofList r.lowerUrl))
  ((TokenBuffer.empty.extend hosts).extend words).tokens

/-- The filters of an index that match a request, in order. -/
def matching (search : RegexSearch) (e : Engine) (index : TokenIndex) (r : Request) :
    List NetworkFilter :=
  ((index.candidates (requestTokens r)).filterMap (e.network[·]?)).filter (·.isMatchBy search r)

/-! ## Blocking -/

/-- Whether a filter keeps requests from being redirected to a resource. -/
def forbidsRedirect (resource : String) (f : NetworkFilter) : Bool :=
  f.mask.has .exception && f.value.all fun value => value.isEmpty || value == resource

/-- The resource to redirect a request to that `block` blocks: its own, or that of the first filter
that redirects, unless an exception forbids it. -/
def redirect? (search : RegexSearch) (e : Engine) (r : Request) (block : NetworkFilter) :
    Option String := do
  let redirects := e.matching search e.indexes.redirects r
  let resource ←
    if block.mask.has .redirect then block.value
    else (redirects.find? (!·.mask.has .exception)).bind NetworkFilter.value
  if redirects.any (forbidsRedirect resource) then none else some resource

/-- Decides on a request, where texts are searched in some way. -/
def decideBy (search : RegexSearch) (e : Engine) (r : Request) : Verdict :=
  match (e.matching search e.indexes.blocks r).head? with
  | none => ⟨.allow, none, none⟩
  | some block =>
    match (e.matching search e.indexes.exceptions r).head? with
    | some exception => ⟨.allow, some exception.id, none⟩
    | none => ⟨.block, some block.id, e.redirect? search r block⟩

/-- Decides on a request. -/
def decide (e : Engine) (r : Request) : Verdict := e.decideBy .compiled r

/-! ## Content security policies -/

/-- The policies of some filters, each once; none are left where an exception without a value is
among the filters, and an exception with a value takes its own away. -/
def policies (filters : List NetworkFilter) : List String :=
  let exceptions := (filters.filter (·.mask.has .exception)).map fun f => f.value.getD ""
  let added := (filters.filter (!·.mask.has .exception)).map fun f => f.value.getD ""
  if exceptions.contains "" then []
  else ((added.filter (!·.isEmpty)).eraseDups).filter (!exceptions.contains ·)

/-- The policies to add to a document, where there are any and texts are searched in some way. -/
def policyBy? (search : RegexSearch) (e : Engine) (r : Request) : Option String :=
  if !r.types.meets .documents then none
  else
    let found := policies (e.matching search e.indexes.csp r)
    if found.isEmpty then none else some (String.intercalate "; " found)

/-- The policies to add to a document, where there are any. -/
def policy? (e : Engine) (r : Request) : Option String := e.policyBy? .compiled r

end Engine

end Blocklist
