/-!
# What is left open

Two things are asked for and are not made here: the form in ASCII of a name
outside ASCII, and regular expressions. Whatever needs one of them takes it
as a parameter; `Idna.toAscii?`, `RegexCheck.compiled` and
`RegexSearch.compiled` are ways to run it all.
-/

namespace Blocklist

/-- A way to put names into ASCII: the form of a name, or none where it has none. -/
abbrev ToAscii := (name : List Char) → Option (List Char)

/-- A way to compile regular expressions: what is wrong with the one with this source, in which
letters match in the same case only or in either; none where it compiles. -/
abbrev RegexCheck := (source : String) → (matchCase : Bool) → Option String

/-- A way to search texts for regular expressions: whether the one with this source, in which
letters match in the same case only or in either, matches some part of a text. -/
abbrev RegexSearch := (source : String) → (matchCase : Bool) → (text : String) → Bool

end Blocklist
