import Blocklist.Filter.Mask
import Blocklist.Hash.FilterId
import Blocklist.Host.List
import Blocklist.Outside
import Blocklist.Token.Run
/-!
# Filters — network filters

A network filter decides on requests: which types and parties it is for,
which pages it is for, and which addresses it matches.
-/

namespace Blocklist

/-- A network filter. -/
structure NetworkFilter where
  /-- Types, parties and the other options. -/
  mask : NetworkMask
  /-- The pattern without its anchors, or the source of a regular expression. -/
  pattern : String
  /-- The pages that the filter is for, by host. -/
  domains : Option HostList := none
  /-- The hosts that a matching address may not have. -/
  denyallow : Option HostList := none
  /-- The policy to add, or the resource to redirect to. -/
  value : Option String := none
  /-- The line that the filter was read from, where it was kept. -/
  rawLine : Option String := none
  deriving DecidableEq, Repr

namespace NetworkFilter

/-- The filter without its source line. -/
def content (f : NetworkFilter) : NetworkFilter := { f with rawLine := none }

/-- Whether two filters differ in their source lines at most. -/
def sameContent (f g : NetworkFilter) : Bool := f.content == g.content

/-- The text fields that make up a filter, in order. -/
def fields (f : NetworkFilter) : List (Option String) :=
  [some f.pattern, f.domains.map HostList.text, f.denyallow.map HostList.text, f.value]

/-- The id of a filter. -/
def id (f : NetworkFilter) : UInt32 := FilterId.ofFields f.mask.word f.fields

/-- The id of the filter that this one cancels as a badfilter. -/
def targetId (f : NetworkFilter) : UInt32 :=
  FilterId.ofFields (f.mask.without .badfilter).word f.fields

/-- Whether the filter is a regular expression that compiles. -/
def compiles (regex : RegexCheck) (f : NetworkFilter) : Bool :=
  f.mask.has .regex && (regex f.pattern (f.mask.has .matchCase)).isNone

/-! ## Tokens -/

/-- The tokens that every address has that the pattern matches. -/
def patternTokens (f : NetworkFilter) : List UInt32 :=
  if f.mask.has .regex then []
  else
    let openStart := !(f.mask.has .leftAnchor || f.mask.has .hostAnchor)
    let tokens := Token.ofPattern openStart (!f.mask.has .rightAnchor) (Text.utf8 f.pattern)
    (TokenBuffer.empty.extend tokens).tokens

/-- The groups of tokens under which a filter is filed: a request that it matches has all tokens of
one group. A pattern without tokens goes by the pages that the filter is for. -/
def tokenGroups (f : NetworkFilter) : List (List UInt32) :=
  let tokens := f.patternTokens
  match f.domains with
  | some domains =>
    if tokens.isEmpty && domains.hasPositive then
      domains.positive.map fun domain => [hashText (String.ofList domain)]
    else [tokens]
  | none => [tokens]

end NetworkFilter

end Blocklist
