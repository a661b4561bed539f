import Blocklist.Rule.Cosmetic
import Blocklist.Rule.Network
/-!
# Rules — lists

A list is read line by line. Comments and blank lines are passed over, every
other line is a filter of one kind or is refused with its number and the
reason, and no line has a say in how another is read.
-/

namespace Blocklist

/-- The kind of filter that a line is read as. -/
inductive RuleKind where
  | network
  | cosmetic
  deriving DecidableEq, Repr

namespace RuleKind

/-- What follows the first `#` of a line that has a cosmetic marker. -/
def markers : List String := ["#", "@#", "?#", "@?#", "$#", "@$#", "%#", "@%#"]

/-- What comments and headers begin with. -/
def comments : List String := ["!", "[Adblock", "[uBlock"]

/-- The kind of a line; none for a blank line, a header or a comment. A `#` at the beginning is a
comment unless it begins a marker. -/
def ofLine? (line : List Char) : Option RuleKind :=
  if line.isEmpty || comments.any fun c => c.toList.isPrefixOf line then none
  else
    match Text.cut? '#' line with
    | none => some network
    | some (front, after) =>
      if markers.any fun m => m.toList.isPrefixOf after then some cosmetic
      else if front.isEmpty then none
      else some network

end RuleKind

/-- Which lines of a list are read, and what is kept of them. -/
structure ListOptions where
  /-- Whether network filters are read. -/
  network : Bool := true
  /-- Whether cosmetic filters are read. -/
  cosmetic : Bool := true
  /-- Whether filters keep the lines that they were read from. -/
  keepLines : Bool := false
  deriving DecidableEq, Repr

/-- What becomes of a line. -/
inductive LineOutcome where
  /-- The line is passed over. -/
  | skipped
  /-- The line is a network filter. -/
  | network (filter : NetworkFilter)
  /-- The line is a cosmetic filter. -/
  | cosmetic (filter : CosmeticFilter)
  /-- The line is refused. -/
  | refused (reason : RuleError)
  deriving DecidableEq, Repr

/-- What becomes of a line without blanks around it. -/
def LineOutcome.ofLine (idna : ToAscii) (regex : RegexCheck) (options : ListOptions)
    (line : List Char) : LineOutcome :=
  match RuleKind.ofLine? line with
  | none => skipped
  | some .network =>
    if !options.network then skipped
    else
      match NetworkFilter.ofLine idna regex options.keepLines (String.ofList line) with
      | .ok filter => network filter
      | .error reason => refused (.network reason)
  | some .cosmetic =>
    if !options.cosmetic then skipped
    else
      match CosmeticFilter.ofLine idna options.keepLines (String.ofList line) with
      | .ok filter => cosmetic filter
      | .error reason => refused (.cosmetic reason)

/-- A line that was refused. -/
structure Refusal where
  /-- The number of the line, from one. -/
  number : Nat
  /-- The line without the blanks around it. -/
  line : String
  /-- Why it was refused. -/
  reason : RuleError
  deriving DecidableEq, Repr

/-- What a list was read as; each part is in the order of the lines. -/
structure RuleList where
  /-- The network filters. -/
  network : List NetworkFilter
  /-- The cosmetic filters. -/
  cosmetic : List CosmeticFilter
  /-- The lines that were refused. -/
  refused : List Refusal
  deriving DecidableEq, Repr

namespace RuleList

/-- The lines of a text without the blanks around them. -/
def linesOf (text : String) : List (List Char) := (text.toList.splitOn '\n').map Text.trim

/-- Reads a list. -/
def ofText (idna : ToAscii) (regex : RegexCheck) (options : ListOptions) (text : String) :
    RuleList :=
  let outcomes := (linesOf text).map fun line => (line, LineOutcome.ofLine idna regex options line)
  { network := outcomes.filterMap fun
      | (_, .network filter) => some filter
      | _ => none
    cosmetic := outcomes.filterMap fun
      | (_, .cosmetic filter) => some filter
      | _ => none
    refused := (outcomes.zipIdx 1).filterMap fun
      | ((line, .refused reason), number) => some ⟨number, String.ofList line, reason⟩
      | _ => none }

end RuleList

end Blocklist
