import Blocklist.Filter.Cosmetic
import Blocklist.Filter.Network
import Blocklist.Index.Basic
/-!
# Engine

Filters together with the indexes that find them. A network filter goes into
the index of the part it plays, and a badfilter into none; a cosmetic filter
is filed under its hosts or, without any, under its selector's tokens.
-/

namespace Blocklist

/-- The part that a network filter plays. -/
inductive NetworkRole where
  /-- Blocks. -/
  | block
  /-- Allows what others block. -/
  | exception
  /-- Redirects what others block, or keeps others from redirecting. -/
  | redirect
  /-- Adds a content security policy, or takes one away. -/
  | csp
  deriving DecidableEq, Repr

/-- The part that a filter plays; a badfilter plays none. -/
def NetworkFilter.role? (f : NetworkFilter) : Option NetworkRole :=
  if f.mask.has .badfilter then none
  else if f.mask.has .csp then some .csp
  else if f.mask.has .redirectRule || (f.mask.has .exception && f.mask.has .redirect) then
    some .redirect
  else if f.mask.has .exception then some .exception
  else some .block

/-- The indexes of an engine. -/
structure Indexes where
  /-- Filters that block. -/
  blocks : TokenIndex
  /-- Filters that allow. -/
  exceptions : TokenIndex
  /-- Filters that redirect, and exceptions from them. -/
  redirects : TokenIndex
  /-- Filters that add policies, and exceptions from them. -/
  csp : TokenIndex
  /-- Cosmetic filters by the hosts that they are for. -/
  byHost : TokenIndex
  /-- Cosmetic filters for every host, by their selectors' tokens. -/
  generic : TokenIndex
  deriving DecidableEq, Repr

namespace Indexes

/-- Nothing filed. -/
def empty : Indexes := ⟨.empty, .empty, .empty, .empty, .empty, .empty⟩

/-- What is filed of the filters that play a part. -/
def networkEntries (role : NetworkRole) (filters : List NetworkFilter) : List IndexEntry :=
  (filters.zipIdx.filter fun place => place.1.role? == some role).map fun place =>
    ⟨place.2, place.1.tokenGroups⟩

/-- The groups that a cosmetic filter is filed under by host, where it names a host that it is
for. -/
def hostGroups? (f : CosmeticFilter) : Option (List (List UInt32)) := do
  let hosts ← f.hostnames
  if hosts.hasPositive then
    some (hosts.positive.map fun host => [hashText (String.ofList host)])
  else none

/-- What is filed of the filters for some hosts. -/
def hostEntries (filters : List CosmeticFilter) : List IndexEntry :=
  filters.zipIdx.filterMap fun place => (hostGroups? place.1).map fun groups => ⟨place.2, groups⟩

/-- What is filed of the filters for every host. -/
def genericEntries (filters : List CosmeticFilter) : List IndexEntry :=
  (filters.zipIdx.filter fun place => (hostGroups? place.1).isNone).map fun place =>
    ⟨place.2, place.1.tokenGroups⟩

/-- The indexes of some filters. -/
def build (network : List NetworkFilter) (cosmetic : List CosmeticFilter) : Indexes where
  blocks := .build (networkEntries .block network)
  exceptions := .build (networkEntries .exception network)
  redirects := .build (networkEntries .redirect network)
  csp := .build (networkEntries .csp network)
  byHost := .build (hostEntries cosmetic)
  generic := .build (genericEntries cosmetic)

end Indexes

/-- Filters with their indexes. -/
structure Engine where
  /-- The network filters, in order. -/
  network : Array NetworkFilter
  /-- The cosmetic filters, in order. -/
  cosmetic : Array CosmeticFilter
  /-- The indexes, which hold positions in the two arrays. -/
  indexes : Indexes
  deriving DecidableEq, Repr

namespace Engine

/-- No filters. -/
def empty : Engine := ⟨#[], #[], .empty⟩

/-- The engine of some filters. -/
def build (network : List NetworkFilter) (cosmetic : List CosmeticFilter) : Engine :=
  ⟨network.toArray, cosmetic.toArray, .build network cosmetic⟩

end Engine

end Blocklist
