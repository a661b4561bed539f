import Blocklist.Unicode.Table
import Blocklist.Idna.Data
/-!
# Internationalised names — mapping

What UTS #46 makes of the characters of a name: some stay, some vanish,
some become others, and the rest may not occur at all. ASCII characters
stay, apart from letters, which become lower-case; the characters that
other mappings turn into `ss` or drop, but that names may hold, stay too.
-/

namespace Blocklist

namespace Idna

/-- The characters that vanish. -/
def ignored : Unicode.Table Unit := .ofSpans (Unicode.rangesOf Data.ignored ())

/-- What becomes of a character that does not vanish. -/
inductive Fate
  /-- It stays. -/
  | keep
  /-- It moves along with its span, whose first character becomes this one. -/
  | shift (target : Nat)
  /-- Every other character of its span, from the first on, becomes its successor, which stays. -/
  | alternate
  /-- It becomes these characters. -/
  | expand (parts : List Char)

/-- The fate of every other character that may occur. -/
def fates : Unicode.Table Fate :=
  .ofSpans <|
    Unicode.rangesOf Data.valid .keep
      ++ Unicode.rangesOf Data.alternating .alternate
      ++ (Unicode.entries Data.shifted).filterMap (fun
        | [first, last, target] => some ⟨first, last, .shift target⟩
        | _ => none)
      ++ (Unicode.entries Data.expanded).filterMap (fun
        | c :: part :: parts => some ⟨c, c, .expand ((part :: parts).map Char.ofNat)⟩
        | _ => none)

/-- What a character becomes; `none` where it may not occur. -/
def mapChar? (c : Char) : Option (List Char) :=
  if c.val < 0x80 then some [c.toLower]
  else if ignored.mem c then some []
  else
    match fates.find? c with
    | none => none
    | some ⟨first, _, fate⟩ =>
      match fate with
      | .keep => some [c]
      | .shift target => some [Char.ofNat (target + (c.toNat - first))]
      | .alternate => some [if (c.toNat - first) % 2 = 0 then Char.ofNat (c.toNat + 1) else c]
      | .expand parts => some parts

/-- A character that mapping leaves as it is. -/
def isStable (c : Char) : Bool := mapChar? c == some [c]

/-- What a name becomes; `none` where a character may not occur. -/
def mapChars? : List Char → Option (List Char)
  | [] => some []
  | c :: rest => do
    let mapped ← mapChar? c
    let others ← mapChars? rest
    pure (mapped ++ others)

end Idna

end Blocklist
