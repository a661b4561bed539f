import Blocklist.Unicode.Table
import Blocklist.Unicode.Data.Categories
/-!
# Unicode — general categories

Each assigned character has one two-letter category, whose first letter
names the wider class it belongs to.
-/

namespace Blocklist

namespace Unicode

/-- The category of each assigned character. -/
def categoryTable : Table String :=
  .ofSpans (Data.categories.flatMap fun (name, ranges) => rangesOf ranges name)

/-- The category of a character, `Cn` where it has no other. -/
def category (c : Char) : String := (categoryTable.get? c).getD "Cn"

/-- A combining mark: `Mn`, `Mc` or `Me`. -/
def isMark (c : Char) : Bool := ["Mn", "Mc", "Me"].contains (category c)

end Unicode

end Blocklist
