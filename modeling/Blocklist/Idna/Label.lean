import Blocklist.Unicode.Category
import Blocklist.Unicode.Composition
import Blocklist.Unicode.Data.Direction
import Blocklist.Unicode.Data.Joining
import Blocklist.Idna.Mapping
import Blocklist.Idna.Punycode
/-!
# Internationalised names — what a label may hold

A label may not begin with a combining mark, holds joiners only where the
script calls for them, and in a name with right-to-left characters runs in
one direction (RFC 5893). A label that is already encoded has to decode to
a label that mapping and normalisation would leave as it is.
-/

namespace Blocklist

namespace Idna

/-! ## Joiners -/

/-- How a character joins its neighbours in a cursive script. -/
inductive Joining
  /-- Towards its left. -/
  | left
  /-- Towards its right. -/
  | right
  /-- On both sides. -/
  | dual
  /-- As if it were not there. -/
  | transparent
  deriving DecidableEq

/-- The joining types of the characters that have one. -/
def joiningTable : Unicode.Table Joining :=
  .ofSpans <| Unicode.Data.joining.flatMap fun (name, ranges) =>
    Unicode.rangesOf ranges
      (if name = "L" then .left else if name = "R" then .right else if name = "D" then .dual
        else .transparent)

/-- Whether the nearest character that is not transparent joins on the wanted side. -/
def joins (side : Joining) : List Char → Bool
  | [] => false
  | c :: rest =>
    match joiningTable.get? c with
    | some .transparent => joins side rest
    | some .dual => true
    | some j => j == side
    | none => false

/-- A joiner may follow a virama; a zero-width non-joiner may also stand between letters that would
join. `back` holds what precedes `rest`, nearest first. -/
def joinersAllowed (back : List Char) : List Char → Bool
  | [] => true
  | c :: rest =>
    let allowed :=
      if c == '\u200C' || c == '\u200D' then
        match back with
        | [] => false
        | p :: _ =>
          Unicode.combiningClass p == 9
            || (c == '\u200C' && joins .left back && joins .right rest)
      else true
    allowed && joinersAllowed (c :: back) rest

/-! ## Directions -/

/-- The directional classes of characters that the rule tells apart. -/
inductive Direction
  | l | r | al | an | en | es | cs | et | on | bn | nsm | breaking
  deriving DecidableEq

/-- A class by its name. -/
def Direction.ofName : String → Direction
  | "R" => .r
  | "AL" => .al
  | "AN" => .an
  | "EN" => .en
  | "ES" => .es
  | "CS" => .cs
  | "ET" => .et
  | "ON" => .on
  | "BN" => .bn
  | "NSM" => .nsm
  | _ => .l

/-- The classes other than `l`. -/
def directionTable : Unicode.Table Direction :=
  .ofSpans <|
    Unicode.rangesOf Unicode.Data.breaking .breaking
      ++ Unicode.Data.directions.flatMap fun (name, ranges) =>
        Unicode.rangesOf ranges (.ofName name)

/-- The class of a character. -/
def direction (c : Char) : Direction := (directionTable.get? c).getD .l

/-- Whether a name has right-to-left characters, of which none is in ASCII: then its labels have to
keep to one direction. -/
def hasRightToLeft (name : List Char) : Bool :=
  name.any fun c => !(c.val < 0x80) && [.r, .al, .an].contains (direction c)

/-- Classes that fit into either direction. -/
def Direction.neutral : List Direction := [.es, .cs, .et, .on, .bn, .nsm]

/-- Whether a label, from its second character on, has only the classes `last` and neutral ones,
and ends in one of `last` but for marks. -/
def runsIn (last body : List Direction) : Bool :=
  body.all (fun d => last.contains d || Direction.neutral.contains d)
    && ((body.reverse.dropWhile (· == .nsm)).head?.all fun d => last.contains d)

/-- The rule for one label: the first character gives the direction, which settles what may come
inside and at the end; from right to left, figures of two scripts do not mix. -/
def directionAllowed (label : List Char) : Bool :=
  match label.map direction with
  | [] => true
  | .l :: body => runsIn [.l, .en] body
  | .r :: body | .al :: body =>
    runsIn [.r, .al, .an, .en] body && !(body.contains .an && body.contains .en)
  | _ => false

/-! ## Labels -/

/-- What every label has to satisfy by itself: in ASCII nothing, and one that will be encoded begins
with no mark, keeps to the rule of joiners and holds at most a thousand characters. -/
def labelAllowed (label : List Char) : Bool :=
  Text.isAscii label
    || (match label with
      | [] => true
      | c :: _ => !Unicode.isMark c)
      && joinersAllowed [] label
      && label.length ≤ 1000

/-- The label that a mapped and normalised label stands for: one that begins with `xn--` is decoded,
and what it decodes to may not have been written otherwise. -/
def readLabel? (label : List Char) : Option (List Char) :=
  match Text.dropOpening? ['x', 'n', '-', '-'] label with
  | none => if labelAllowed label then some label else none
  | some code =>
    if Text.isAscii code && code.getLast?.any (· != '-') && code.length ≤ 2000 then
      match Punycode.decode? code with
      | none => none
      | some plain =>
        if plain.all isStable && !plain.contains '.' && Unicode.normalForm plain == plain
            && labelAllowed plain
        then some plain else none
    else none

/-- The ASCII form of a label. -/
def encodeLabel (label : List Char) : List Char :=
  if Text.isAscii label then label else ['x', 'n', '-', '-'] ++ Punycode.encode label

end Idna

end Blocklist
