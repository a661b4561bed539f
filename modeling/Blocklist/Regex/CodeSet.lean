import Blocklist.Unicode.Table
/-!
# Patterns — sets of characters

A set of characters is a list of code point ranges, ascending and apart
from one another, so that two sets with the same members are equal and a
look-up stops at the first range that lies beyond.
-/

namespace Blocklist

namespace Regex

/-- A set of code points as ranges. -/
structure CodeSet where
  /-- First and last code point of each range, ascending, none touching the next. -/
  ranges : List (Nat × Nat)
  deriving DecidableEq, Repr, Inhabited

namespace CodeSet

/-- The greatest code point. -/
def top : Nat := 0x10FFFF

/-- Joins a range to ascending ranges that do not begin before it. -/
def join (lo hi : Nat) : List (Nat × Nat) → List (Nat × Nat)
  | [] => [(lo, hi)]
  | (a, b) :: rest => if a ≤ hi + 1 then join lo (max hi b) rest else (lo, hi) :: join a b rest

/-- The set of the members of some ranges. -/
def ofRanges (ranges : List (Nat × Nat)) : CodeSet :=
  match ranges.mergeSort fun a b => a.1 ≤ b.1 with
  | [] => ⟨[]⟩
  | (lo, hi) :: rest => ⟨join lo hi rest⟩

/-- No character. -/
def empty : CodeSet := ⟨[]⟩

/-- One character. -/
def single (c : Char) : CodeSet := ⟨[(c.toNat, c.toNat)]⟩

/-- The characters of some spans. -/
def ofSpans {α : Type} (spans : List (Unicode.Span α)) : CodeSet :=
  ofRanges (spans.map fun s => (s.first, s.last))

/-- Whether one of ascending ranges holds a code point. -/
def holds (n : Nat) : List (Nat × Nat) → Bool
  | [] => false
  | (lo, hi) :: rest => if n < lo then false else n ≤ hi || holds n rest

/-- Membership of a code point. -/
def containsCode (s : CodeSet) (n : Nat) : Bool := holds n s.ranges

/-- Membership. -/
def contains (s : CodeSet) (c : Char) : Bool := s.containsCode c.toNat

/-- The members of either set. -/
def union (s t : CodeSet) : CodeSet := ofRanges (s.ranges ++ t.ranges)

/-- The gaps between ascending ranges, from `lo` up to `limit`. -/
def gaps (limit lo : Nat) : List (Nat × Nat) → List (Nat × Nat)
  | [] => if lo ≤ limit then [(lo, limit)] else []
  | (a, b) :: rest =>
    if lo < a then (lo, min limit (a - 1)) :: gaps limit (b + 1) rest else gaps limit (b + 1) rest

/-- Every code point up to `limit` that is not a member. -/
def complement (limit : Nat) (s : CodeSet) : CodeSet := ⟨gaps limit 0 s.ranges⟩

/-- The members of both sets. -/
def inter (s t : CodeSet) : CodeSet :=
  (union (s.complement top) (t.complement top)).complement top

/-- The members of `s` that are not members of `t`. -/
def diff (s t : CodeSet) : CodeSet := inter s (t.complement top)

/-- The members of exactly one of two sets. -/
def symmDiff (s t : CodeSet) : CodeSet := union (diff s t) (diff t s)

/-- Whether every member is an ASCII character. -/
def isAscii (s : CodeSet) : Bool := s.ranges.all fun r => r.2 < 0x80

end CodeSet

end Regex

end Blocklist
