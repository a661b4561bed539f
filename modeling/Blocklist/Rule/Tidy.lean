import Std.Data.HashSet
import Blocklist.Filter.Cosmetic
import Blocklist.Filter.Network
/-!
# Rules — tidying a list

A badfilter takes the filters with its target's id out of the list and goes
itself. Of the filters left that share an id, the first is kept.
-/

namespace Blocklist

/-- How many filters went, and why. -/
structure TidyCounts where
  /-- Filters before. -/
  before : Nat
  /-- Filters after. -/
  after : Nat
  /-- Filters that repeat another. -/
  repeated : Nat
  /-- Filters that cancel others. -/
  badfilters : Nat
  /-- Filters that were cancelled. -/
  cancelled : Nat
  deriving DecidableEq, Repr

/-- A list without cancelled and repeated filters. -/
structure TidyList where
  /-- The network filters that are left. -/
  network : List NetworkFilter
  /-- The cosmetic filters that are left. -/
  cosmetic : List CosmeticFilter
  /-- What was taken out. -/
  counts : TidyCounts
  deriving DecidableEq, Repr

namespace Tidy

/-- The items whose key was not `seen` and does not come twice; the first of each key is kept. -/
def firstOfEach {α : Type} (key : α → UInt32) (seen : Std.HashSet UInt32) : List α → List α
  | [] => []
  | item :: items =>
    if seen.contains (key item) then firstOfEach key seen items
    else item :: firstOfEach key (seen.insert (key item)) items

/-- The ids that the badfilters of a list cancel. -/
def cancelledIds (network : List NetworkFilter) : Std.HashSet UInt32 :=
  .ofList ((network.filter (·.mask.has .badfilter)).map NetworkFilter.targetId)

end Tidy

/-- Takes cancelled and repeated filters out of a list. -/
def tidy (network : List NetworkFilter) (cosmetic : List CosmeticFilter) : TidyList :=
  let ids := Tidy.cancelledIds network
  let lasting := network.filter (!·.mask.has .badfilter)
  let live := lasting.filter (!ids.contains ·.id)
  let keptNetwork := Tidy.firstOfEach NetworkFilter.id ∅ live
  let keptCosmetic := Tidy.firstOfEach CosmeticFilter.id ∅ cosmetic
  { network := keptNetwork
    cosmetic := keptCosmetic
    counts := {
      before := network.length + cosmetic.length
      after := keptNetwork.length + keptCosmetic.length
      repeated := (live.length - keptNetwork.length) + (cosmetic.length - keptCosmetic.length)
      badfilters := network.length - lasting.length
      cancelled := lasting.length - live.length } }

end Blocklist
