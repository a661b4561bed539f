import Blocklist.Filter.Glob
import Blocklist.Filter.Network
import Blocklist.Regex.Program
import Blocklist.Request.Basic
/-!
# Filters — which requests a network filter matches

A filter matches a request when its types, its parties, its pages and its
pattern all do. How texts are searched for regular expressions is left open
up to the last definition.
-/

namespace Blocklist

namespace NetworkFilter

/-- The address that the pattern is compared with: lower case unless case counts. -/
def comparedUrl (f : NetworkFilter) (r : Request) : List Char :=
  if f.mask.has .matchCase then r.url.toList else r.lowerUrl

/-- Whether the wildcard pattern matches from the beginning of `text`, or anywhere in it. -/
def globMatches (f : NetworkFilter) (left : Bool) (text : List Char) : Bool :=
  Glob.isMatch left (f.mask.has .rightAnchor) (Text.utf8 f.pattern)
    (Text.utf8 (String.ofList text))

/-- Whether the pattern matches the address. A pattern anchored to the host matches from the
beginning of one of its labels; a regular expression sees the address as it was given. -/
def patternMatches (search : RegexSearch) (f : NetworkFilter) (r : Request) : Bool :=
  if f.mask.has .regex then search f.pattern (f.mask.has .matchCase) r.url
  else if f.mask.has .hostAnchor then
    match Url.parts? (f.comparedUrl r) with
    | none => false
    | some parts => parts.labelStarts.any (f.globMatches true)
  else f.globMatches (f.mask.has .leftAnchor) (f.comparedUrl r)

/-- Whether the filter is for requests of this party. -/
def partyMatches (f : NetworkFilter) (r : Request) : Bool :=
  f.mask.has (if r.thirdParty then .thirdParty else .firstParty)

/-- Whether the filter is for the page that asks. -/
def pageMatches (f : NetworkFilter) (r : Request) : Bool :=
  f.domains.all (·.admits r.sourceHost.toList)

/-- Whether the host of the address is one that the filter leaves alone. -/
def denies (f : NetworkFilter) (r : Request) : Bool :=
  f.denyallow.any fun hosts => hosts.positive.any (Host.covers · r.host)

/-- Whether the filter matches a request, where texts are searched in some way. -/
def isMatchBy (search : RegexSearch) (f : NetworkFilter) (r : Request) : Bool :=
  f.mask.types.meets r.types && f.partyMatches r && f.pageMatches r && !f.denies r
    && f.patternMatches search r

/-- Whether the filter matches a request. -/
def isMatch (f : NetworkFilter) (r : Request) : Bool := f.isMatchBy .compiled r

end NetworkFilter

end Blocklist
