import Blocklist.Regex.CodeSet
import Blocklist.Unicode.Data.Folding
/-!
# Patterns — letters without regard to case

Simple case folding puts characters that differ in case alone into one
class. A set is closed under it by adding the whole class of each member.
-/

namespace Blocklist

namespace Regex

/-- The classes that hold more than one character. -/
def foldingClasses : List (List Nat) := Unicode.entries Unicode.Data.foldingClasses

/-- The class of each character that has others in its class. -/
def foldingTable : Unicode.Table (List Nat) :=
  .ofSpans (foldingClasses.flatMap fun cls => cls.map fun n => ⟨n, n, cls⟩)

/-- A character and those that differ from it in case alone. -/
def foldChar (c : Char) : CodeSet :=
  match foldingTable.get? c with
  | none => .single c
  | some cls => .ofRanges (cls.map fun n => (n, n))

/-- The letter in the other case, if it is a letter of ASCII. -/
def otherCase? (n : Nat) : Option Nat :=
  if 0x41 ≤ n && n ≤ 0x5A then some (n + 0x20)
  else if 0x61 ≤ n && n ≤ 0x7A then some (n - 0x20)
  else none

/-- An ASCII letter in both cases. -/
def foldAsciiChar (c : Char) : CodeSet :=
  match otherCase? c.toNat with
  | none => .single c
  | some other => .ofRanges [(c.toNat, c.toNat), (other, other)]

namespace CodeSet

/-- The set with all characters that differ from a member in case alone. -/
def foldCase (s : CodeSet) : CodeSet :=
  let added := (foldingClasses.filter fun cls => cls.any s.containsCode).flatten
  if added.isEmpty then s else s.union (ofRanges (added.map fun n => (n, n)))

/-- The set with the other case of each ASCII letter in it. -/
def foldAsciiCase (s : CodeSet) : CodeSet :=
  let letters := (List.range 0x80).filter s.containsCode
  s.union (ofRanges ((letters.filterMap otherCase?).map fun n => (n, n)))

end CodeSet

end Regex

end Blocklist
