import Blocklist.Text.Utf8
import Blocklist.Host.Domain
/-!
# Hosts — lists that restrict a filter

A list of domains, some of them negated by `~`. The longest entry that
covers a host decides whether the list admits it.
-/

namespace Blocklist

/-- Domains with commas between, kept as they were written. -/
structure HostList where
  /-- The text of the list. -/
  text : String
  deriving DecidableEq, Repr

namespace HostList

/-- The entries, longest first; those of one length stay in order. -/
def entries (l : HostList) : List (List Char) :=
  ((l.text.toList.splitOn ',').filter (!·.isEmpty)).mergeSort
    fun a b => Text.byteLength b ≤ Text.byteLength a

/-- The domain of a negated entry. -/
def negated? (entry : List Char) : Option (List Char) := Text.dropOpening? ['~'] entry

/-- The entries that are not negated, longest first. -/
def positive (l : HostList) : List (List Char) := l.entries.filter fun e => (negated? e).isNone

/-- Whether some entry is not negated. -/
def hasPositive (l : HostList) : Bool := !l.positive.isEmpty

/-- The word of the first entry that covers a host: admitted or not. -/
def verdict? (host : List Char) : List (List Char) → Option Bool
  | [] => none
  | entry :: entries =>
    match negated? entry with
    | some domain => if Host.covers domain host then some false else verdict? host entries
    | none => if Host.covers entry host then some true else verdict? host entries

/-- Whether the list admits a host. Where no entry covers it, a list of negated entries alone
does. -/
def admits (l : HostList) (host : List Char) : Bool :=
  (verdict? host l.entries).getD (!l.hasPositive)

end HostList

end Blocklist
