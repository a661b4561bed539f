import Blocklist.Regex.CodeSet
import Blocklist.Unicode.Category
import Blocklist.Unicode.Data.Scripts
import Blocklist.Unicode.Data.Properties
/-!
# Patterns — characters by property

The sets that a pattern can name: general categories, scripts and
yes-or-no properties of Unicode, and the short classes for digits, blanks
and word characters. Names are compared without regard to case, blanks,
hyphens and underscores, or to `is` in front.
-/

namespace Blocklist

namespace Regex

/-- The form of a property name in which two spellings of one name agree. -/
def plainName (name : List Char) : String :=
  let squeezed := fun (cs : List Char) =>
    String.ofList <| Text.lower <| cs.filter fun c =>
      c.val < 0x80 && c != ' ' && c != '_' && c != '-'
  match name with
  | i :: s :: rest =>
    if (i == 'i' || i == 'I') && (s == 's' || s == 'S') then
      let short := squeezed rest
      if short == "c" then "isc" else short
    else squeezed name
  | _ => squeezed name

/-! ## General categories -/

/-- The categories that a name stands for, each by its two letters. -/
def categoryNames : List (List String × List String) := [
  (["lu", "uppercaseletter"], ["Lu"]),
  (["ll", "lowercaseletter"], ["Ll"]),
  (["lt", "titlecaseletter"], ["Lt"]),
  (["lc", "casedletter"], ["Lu", "Ll", "Lt"]),
  (["lm", "modifierletter"], ["Lm"]),
  (["lo", "otherletter"], ["Lo"]),
  (["l", "letter"], ["Lu", "Ll", "Lt", "Lm", "Lo"]),
  (["mn", "nonspacingmark"], ["Mn"]),
  (["mc", "spacingmark"], ["Mc"]),
  (["me", "enclosingmark"], ["Me"]),
  (["m", "mark", "combiningmark"], ["Mn", "Mc", "Me"]),
  (["nd", "decimalnumber", "digit"], ["Nd"]),
  (["nl", "letternumber"], ["Nl"]),
  (["no", "othernumber"], ["No"]),
  (["n", "number"], ["Nd", "Nl", "No"]),
  (["pc", "connectorpunctuation"], ["Pc"]),
  (["pd", "dashpunctuation"], ["Pd"]),
  (["ps", "openpunctuation"], ["Ps"]),
  (["pe", "closepunctuation"], ["Pe"]),
  (["pi", "initialpunctuation"], ["Pi"]),
  (["pf", "finalpunctuation"], ["Pf"]),
  (["po", "otherpunctuation"], ["Po"]),
  (["p", "punctuation", "punct"], ["Pc", "Pd", "Ps", "Pe", "Pi", "Pf", "Po"]),
  (["sm", "mathsymbol"], ["Sm"]),
  (["sc", "currencysymbol"], ["Sc"]),
  (["sk", "modifiersymbol"], ["Sk"]),
  (["so", "othersymbol"], ["So"]),
  (["s", "symbol"], ["Sm", "Sc", "Sk", "So"]),
  (["zs", "spaceseparator"], ["Zs"]),
  (["zl", "lineseparator"], ["Zl"]),
  (["zp", "paragraphseparator"], ["Zp"]),
  (["z", "separator"], ["Zs", "Zl", "Zp"]),
  (["cc", "control", "cntrl"], ["Cc"]),
  (["cf", "format"], ["Cf"]),
  (["cs", "surrogate"], ["Cs"]),
  (["co", "privateuse"], ["Co"])]

/-- The characters of some categories. -/
def ofCategories (names : List String) : CodeSet :=
  .ofSpans <| (Unicode.Data.categories.filter fun entry => names.contains entry.1).flatMap
    fun entry => Unicode.rangesOf entry.2 ()

/-- The characters that have a category of their own. -/
def assigned : CodeSet := ofCategories (Unicode.Data.categories.map Prod.fst)

/-- The characters without one. -/
def unassigned : CodeSet := assigned.complement CodeSet.top

/-- The set that the name of a general category stands for. -/
def byCategory? (name : String) : Option CodeSet :=
  if name == "any" then some (CodeSet.empty.complement CodeSet.top)
  else if name == "assigned" then some assigned
  else if name == "ascii" then some ⟨[(0, 0x7F)]⟩
  else if name == "cn" || name == "unassigned" then some unassigned
  else if name == "c" || name == "other" then
    some (unassigned.union (ofCategories ["Cc", "Cf", "Cs", "Co"]))
  else
    (categoryNames.find? fun entry => entry.1.contains name).map fun entry => ofCategories entry.2

/-! ## Scripts and yes-or-no properties -/

/-- The set under one of the names of a table. -/
def byName? (table : List (List String × String)) (name : String) : Option CodeSet :=
  (table.find? fun entry => entry.1.any fun n => plainName n.toList == name).map fun entry =>
    .ofSpans (Unicode.rangesOf entry.2 ())

/-- The set that the name of a script stands for. -/
def byScript? (name : String) : Option CodeSet := byName? Unicode.Data.scripts name

/-- The set that the name of a yes-or-no property stands for. -/
def byProperty? (name : String) : Option CodeSet := byName? Unicode.Data.properties name

/-- The set that a name alone stands for: a property, else a category, else a script. The names
`cf`, `sc` and `lc` are always those of categories. -/
def named? (name : List Char) : Option CodeSet :=
  let name := plainName name
  let property := if ["cf", "sc", "lc"].contains name then none else byProperty? name
  (property.orElse fun _ => byCategory? name).orElse fun _ => byScript? name

/-- The set that a property and its value stand for. -/
def valued? (property value : List Char) : Option CodeSet :=
  let property := plainName property
  if ["gc", "generalcategory"].contains property then byCategory? (plainName value)
  else if ["sc", "script"].contains property then byScript? (plainName value)
  else none

/-! ## The short classes -/

/-- Decimal digits. -/
def digits : CodeSet := ofCategories ["Nd"]

/-- Blanks. -/
def blanks : CodeSet :=
  .ofRanges [(0x09, 0x0D), (0x20, 0x20), (0x85, 0x85), (0xA0, 0xA0), (0x1680, 0x1680),
    (0x2000, 0x200A), (0x2028, 0x2029), (0x202F, 0x202F), (0x205F, 0x205F), (0x3000, 0x3000)]

/-- Letters, in the wide sense of the property `Alphabetic`. -/
def letters : CodeSet := (byProperty? "alphabetic").getD .empty

/-- Word characters: letters, marks, decimal digits, connecting punctuation and joiners. -/
def wordChars : CodeSet :=
  letters.union ((ofCategories ["Mn", "Mc", "Me", "Nd", "Pc"]).union ⟨[(0x200C, 0x200D)]⟩)

/-- Decimal digits of ASCII. -/
def asciiDigits : CodeSet := ⟨[(0x30, 0x39)]⟩

/-- Blanks of ASCII. -/
def asciiBlanks : CodeSet := ⟨[(0x09, 0x0D), (0x20, 0x20)]⟩

/-- Word characters of ASCII. -/
def asciiWordChars : CodeSet := ⟨[(0x30, 0x39), (0x41, 0x5A), (0x5F, 0x5F), (0x61, 0x7A)]⟩

/-- The ASCII class with the name that stands between `[:` and `:]`. -/
def asciiClass? (name : String) : Option CodeSet :=
  match name with
  | "alnum" => some ⟨[(0x30, 0x39), (0x41, 0x5A), (0x61, 0x7A)]⟩
  | "alpha" => some ⟨[(0x41, 0x5A), (0x61, 0x7A)]⟩
  | "ascii" => some ⟨[(0x00, 0x7F)]⟩
  | "blank" => some ⟨[(0x09, 0x09), (0x20, 0x20)]⟩
  | "cntrl" => some ⟨[(0x00, 0x1F), (0x7F, 0x7F)]⟩
  | "digit" => some asciiDigits
  | "graph" => some ⟨[(0x21, 0x7E)]⟩
  | "lower" => some ⟨[(0x61, 0x7A)]⟩
  | "print" => some ⟨[(0x20, 0x7E)]⟩
  | "punct" => some ⟨[(0x21, 0x2F), (0x3A, 0x40), (0x5B, 0x60), (0x7B, 0x7E)]⟩
  | "space" => some asciiBlanks
  | "upper" => some ⟨[(0x41, 0x5A)]⟩
  | "word" => some asciiWordChars
  | "xdigit" => some ⟨[(0x30, 0x39), (0x41, 0x46), (0x61, 0x66)]⟩
  | _ => none

end Regex

end Blocklist
