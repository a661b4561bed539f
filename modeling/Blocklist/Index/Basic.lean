import Std.Data.HashMap
import Blocklist.Hash.Murmur
import Blocklist.Index.Ascending
/-!
# Index — filters by token

Filters are filed under tokens, so that a request has to look at those few
filters alone of which it holds a token. A filter is filed once for each of
its groups of tokens, under the rarest token of the group; a filter without
tokens is looked at for every request.
-/

namespace Blocklist

/-- A filter to be filed: where it stands, and its groups of tokens. -/
structure IndexEntry where
  /-- The position of the filter. -/
  position : Nat
  /-- The groups of tokens. -/
  groups : List (List UInt32)
  deriving DecidableEq, Repr

/-- The filters filed under one token. -/
structure Bucket where
  /-- The token. -/
  token : UInt32
  /-- The positions, ascending. -/
  positions : List Nat
  deriving DecidableEq, Repr

/-- Positions of filters by token. -/
structure TokenIndex where
  /-- The buckets, ascending by token. -/
  buckets : List Bucket
  /-- The positions of the filters that every request looks at, ascending. -/
  catchAll : List Nat
  deriving DecidableEq, Repr

namespace TokenIndex

/-- No filters. -/
def empty : TokenIndex := ⟨[], []⟩

/-! ## Rare tokens -/

/-- How often each token comes among some tokens. The numbers are words, and a token that comes too
often for one is counted from zero again. -/
def histogram (tokens : List UInt32) : Std.HashMap UInt32 UInt32 :=
  tokens.foldl (fun counts token => counts.alter token fun n => some (n.getD 0 + 1)) ∅

/-- Words that nearly every address holds. -/
def commonWords : List String := ["http", "https", "www", "com", "js"]

/-- The tokens of the common words. -/
def commonTokens : List UInt32 := commonWords.map hashText

/-- What a common token counts for beyond its number. -/
def commonPenalty : UInt32 := 1048576

/-- A number with the penalty of a common word, or the greatest word where that is too much. -/
def penalised (n : UInt32) : UInt32 := .ofNatClamp (n.toNat + commonPenalty.toNat)

/-- How common a token is: how often it comes, with a penalty for common words. -/
def weight (counts : Std.HashMap UInt32 UInt32) (token : UInt32) : UInt32 :=
  let n := counts.getD token 0
  if commonTokens.contains token then penalised n else n

/-- The first of the rarest tokens of a group. -/
def rarest? (counts : Std.HashMap UInt32 UInt32) (group : List UInt32) : Option UInt32 :=
  group.minOn? (weight counts)

/-! ## Building -/

/-- The places at which an entry is filed: a token and the position, or the position alone for a
filter without tokens. -/
def places (counts : Std.HashMap UInt32 UInt32) (entry : IndexEntry) :
    List (Option UInt32 × Nat) :=
  if entry.groups.isEmpty then [(none, entry.position)]
  else entry.groups.map fun group => (rarest? counts group, entry.position)

/-- Whether the first place comes before the second or is the same: by token, then by position. -/
def placeLe (a b : UInt32 × Nat) : Bool := a.1 < b.1 || (a.1 == b.1 && a.2 ≤ b.2)

/-- Files a position ahead of buckets, in the first one where that has its token. -/
def fileFirst (place : UInt32 × Nat) : List Bucket → List Bucket
  | [] => [⟨place.1, [place.2]⟩]
  | bucket :: buckets =>
    if bucket.token == place.1 then ⟨bucket.token, place.2 :: bucket.positions⟩ :: buckets
    else ⟨place.1, [place.2]⟩ :: bucket :: buckets

/-- The buckets of some places. -/
def bucketsOf (places : List (UInt32 × Nat)) : List Bucket :=
  (ascending placeLe places).foldr fileFirst []

/-- The index of some entries. -/
def build (entries : List IndexEntry) : TokenIndex :=
  let counts := histogram (entries.flatMap fun entry => entry.groups.flatten)
  let filed := entries.flatMap (places counts)
  { buckets := bucketsOf (filed.filterMap fun place => place.1.map fun token => (token, place.2))
    catchAll := ascending Nat.ble
      ((filed.filter fun place => place.1.isNone).map Prod.snd) }

/-! ## Looking up -/

/-- The positions filed under a token. -/
def positions (index : TokenIndex) (token : UInt32) : List Nat :=
  ((index.buckets.find? (·.token == token)).map Bucket.positions).getD []

/-- The positions filed under each token in turn, and then those of the filters that every request
looks at. -/
def collect (index : TokenIndex) (tokens : List UInt32) : List Nat :=
  tokens.flatMap index.positions ++ index.catchAll

/-- The positions of the filters that may match something with these tokens, ascending. -/
def candidates (index : TokenIndex) (tokens : List UInt32) : List Nat :=
  ascending Nat.ble (index.collect tokens)

/-- Whether nothing is filed. -/
def isEmpty (index : TokenIndex) : Bool := index.buckets.isEmpty && index.catchAll.isEmpty

end TokenIndex

end Blocklist
