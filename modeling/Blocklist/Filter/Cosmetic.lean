import Blocklist.Filter.Mask
import Blocklist.Hash.FilterId
import Blocklist.Host.List
import Blocklist.Token.Run
/-!
# Filters — cosmetic filters

A cosmetic filter hides elements of a page, injects a scriptlet into it or
blocks some of its inline scripts.
-/

namespace Blocklist

/-- What a cosmetic filter does to a page. -/
inductive CosmeticAction where
  | hide
  | inject
  | block
  deriving DecidableEq, Repr

/-- A cosmetic filter. -/
structure CosmeticFilter where
  /-- The options. -/
  mask : CosmeticMask
  /-- A selector, a scriptlet or a part of a script. -/
  selector : String
  /-- The pages that the filter is for, by host. -/
  hostnames : Option HostList := none
  /-- The line that the filter was read from, where it was kept. -/
  rawLine : Option String := none
  deriving DecidableEq, Repr

namespace CosmeticFilter

/-- The filter without its source line. -/
def content (f : CosmeticFilter) : CosmeticFilter := { f with rawLine := none }

/-- Whether two filters differ in their source lines at most. -/
def sameContent (f g : CosmeticFilter) : Bool := f.content == g.content

/-- The id of a filter. -/
def id (f : CosmeticFilter) : UInt32 :=
  FilterId.ofFields f.mask.word.toUInt32 [some f.selector, f.hostnames.map HostList.text]

/-- What the filter does; injecting comes before blocking. -/
def action (f : CosmeticFilter) : CosmeticAction :=
  if f.mask.has .scriptInject then .inject
  else if f.mask.has .scriptBlock then .block
  else .hide

/-- Whether the filter is for the pages of a host. -/
def admits (f : CosmeticFilter) (host : List Char) : Bool := f.hostnames.all (·.admits host)

/-! ## Tokens -/

/-- A byte that joins two compound selectors: `+`, `>` or `~`. -/
def isCombinator (b : UInt8) : Bool := b == 0x2B || b == 0x3E || b == 0x7E

/-- The byte of `[`. -/
def openBracket : UInt8 := 0x5B

/-- The byte of `]`. -/
def closeBracket : UInt8 := 0x5D

/-- A selector from its last combinator on. -/
def lastCompound (selector : List UInt8) : List UInt8 :=
  let back := selector.reverse
  (back.takeWhile (!isCombinator ·)).reverse

/-- A byte of neither kind of bracket. -/
def isPlain (b : UInt8) : Bool := b != openBracket && b != closeBracket

/-- The pieces of a selector that lie outside its brackets, `depth` of which are open. A closing
bracket too many takes the piece before it away. -/
def outside (depth : Nat) (text : List UInt8) : List (List UInt8) :=
  let piece := if depth = 0 then [text.takeWhile isPlain] else []
  match _h : text.dropWhile isPlain with
  | [] => piece
  | b :: rest =>
    if b == openBracket then piece ++ outside (depth + 1) rest else outside (depth - 1) rest
termination_by text.length
decreasing_by
  all_goals
    have := (List.dropWhile_sublist isPlain (l := text)).length_le
    simp only [_h, List.length_cons] at this
    omega

/-- The tokens of what the filter hides. Only the last compound selector counts, and of it what lies
outside of brackets; scripts have no tokens. -/
def selectorTokens (f : CosmeticFilter) : List UInt32 :=
  if f.action != .hide then []
  else
    let pieces := outside 0 (lastCompound (Text.utf8 f.selector))
    (TokenBuffer.empty.extend (pieces.flatMap Token.ofSelector)).tokens

/-- The groups of tokens under which a filter is filed. -/
def tokenGroups (f : CosmeticFilter) : List (List UInt32) := [f.selectorTokens]

end CosmeticFilter

end Blocklist
