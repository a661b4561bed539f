import Blocklist.Codebook.Basic
import Blocklist.Codebook.Table.Csp
import Blocklist.Codebook.Table.Pattern
import Blocklist.Codebook.Table.Raw
import Blocklist.Codebook.Table.Selector
import Blocklist.Hash.Crc32
/-!
# Codebooks — the books in use

A snapshot names its books by a fingerprint and is read with the same books
only.
-/

namespace Blocklist

namespace Codebook

/-- For content security policies. -/
def csp : Codebook := ⟨"network-csp", policies⟩

/-- For the patterns of network filters. -/
def pattern : Codebook := ⟨"network-filter", patterns⟩

/-- For hosts, other option values and source lines. -/
def raw : Codebook := ⟨"raw-network", lines⟩

/-- For selectors. -/
def selector : Codebook := ⟨"cosmetic-selector", selectors⟩

/-- Every book, in the order in which the fingerprint takes them. -/
def books : List Codebook := [csp, pattern, raw, selector]

/-- The name of a book, its entries, each after a zero byte, and the end of the line. -/
def printed (book : Codebook) : List UInt8 :=
  Text.utf8 book.name ++ (book.entries.flatMap fun entry => 0 :: entry) ++ Text.utf8 "\n"

/-- The checksum of all books. -/
def fingerprint : UInt32 := crc32 (books.flatMap printed)

end Codebook

end Blocklist
