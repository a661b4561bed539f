import Blocklist.Text.Utf8
import Blocklist.Hash.Murmur
import Blocklist.Token.Buffer
/-!
# Tokens — runs of letters

Addresses, patterns and selectors are cut into maximal runs of the bytes
that a word may hold, and each run is hashed. A filter is filed only under
runs that every text it matches is bound to have as well.
-/

namespace Blocklist

namespace Token

/-- A maximal run with the byte on either side, where there is one. -/
structure Run where
  /-- The byte before the run. -/
  before : Option UInt8
  /-- The bytes of the run. -/
  body : List UInt8
  /-- The byte after the run. -/
  after : Option UInt8
  deriving DecidableEq, Repr

/-- The maximal runs of `allowed` bytes in `text`, which `before` precedes. -/
def runsFrom (allowed : UInt8 → Bool) (before : Option UInt8) (text : List UInt8) : List Run :=
  match text with
  | [] => []
  | b :: rest =>
    if allowed b then
      let tail := rest.dropWhile allowed
      ⟨before, b :: rest.takeWhile allowed, tail.head?⟩ :: runsFrom allowed (some b) tail
    else runsFrom allowed (some b) rest
termination_by text.length
decreasing_by
  · have := (List.dropWhile_sublist allowed (l := rest)).length_le
    simp only [List.length_cons]
    omega
  · simp

/-- The maximal runs of `allowed` bytes, left to right. -/
def runs (allowed : UInt8 → Bool) (text : List UInt8) : List Run := runsFrom allowed none text

/-! ## What a word may hold -/

/-- Letters and digits of ASCII. -/
def isWordByte (b : UInt8) : Bool :=
  (0x30 ≤ b && b ≤ 0x39) || (0x41 ≤ b && b ≤ 0x5A) || (0x61 ≤ b && b ≤ 0x7A)

/-- What an identifier of a style sheet may hold: letters, digits, `_`, `-`, all beyond ASCII. -/
def isIdentByte (b : UInt8) : Bool := isWordByte b || b == 0x5F || b == 0x2D || 0x80 ≤ b

/-- An ASCII letter in lower case. -/
def lowerByte (b : UInt8) : UInt8 := if 0x41 ≤ b && b ≤ 0x5A then b + 0x20 else b

/-- A run of addresses and patterns has to be this long to count. -/
def leastLength : Nat := 2

/-- The byte of `*`. -/
def star : UInt8 := 0x2A

/-! ## Tokens -/

/-- The tokens of a selector: its identifiers, in the case they are written in. -/
def ofSelector (text : List UInt8) : List UInt32 :=
  (runs isIdentByte text).map fun r => hashToken r.body

/-- The tokens of an address in lower case: its runs of two letters or more. -/
def ofUrl (text : List UInt8) : List UInt32 :=
  ((runs isWordByte text).filter fun r => leastLength ≤ r.body.length).map fun r => hashToken r.body

/-- Whether every text that holds what is around a run in a pattern holds the run whole: it may not
touch a wildcard, nor an end of the pattern that is left open. -/
def Run.isWhole (openStart openEnd : Bool) (r : Run) : Bool :=
  leastLength ≤ r.body.length
    && !(openStart && r.before.isNone) && !(openEnd && r.after.isNone)
    && r.before != some star && r.after != some star

/-- The tokens of a pattern, in lower case. -/
def ofPattern (openStart openEnd : Bool) (text : List UInt8) : List UInt32 :=
  ((runs isWordByte text).filter (Run.isWhole openStart openEnd)).map fun r =>
    hashToken (r.body.map lowerByte)

end Token

end Blocklist
