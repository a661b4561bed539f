import Blocklist.Regex.CaseFold
import Blocklist.Regex.Property
import Blocklist.Regex.Syntax
/-!
# Patterns — what is meant

Flags are resolved, names looked up and letters closed under case, so that
what is left speaks of character sets and places alone. A pattern has no
meaning where it names an unknown property, or where it turns Unicode off
and could then match part of a character.
-/

namespace Blocklist

namespace Regex

/-- The flags in force. -/
structure Flags where
  /-- Letters stand for both cases. -/
  ignoreCase : Bool := false
  /-- Line anchors match at every line. -/
  multiLine : Bool := false
  /-- The dot matches line feeds too. -/
  dotAll : Bool := false
  /-- Classes and boundaries go by Unicode. -/
  unicode : Bool := true
  /-- Lines end at carriage returns too. -/
  crlf : Bool := false
  deriving DecidableEq, Repr

/-- The flags after one setting; greed and layout change nothing that is matched. -/
def Flags.set (f : Flags) : Flag × Bool → Flags
  | (.ignoreCase, on) => { f with ignoreCase := on }
  | (.multiLine, on) => { f with multiLine := on }
  | (.dotAll, on) => { f with dotAll := on }
  | (.unicode, on) => { f with unicode := on }
  | (.crlf, on) => { f with crlf := on }
  | (.swapGreed, _) => f
  | (.verbose, _) => f

/-- The flags after some settings. -/
def Flags.apply (f : Flags) (settings : Settings) : Flags := settings.foldl Flags.set f

/-- Places in a text. -/
inductive Place
  | textStart | textEnd | lineStart | lineEnd | crlfStart | crlfEnd
  | boundary (unicode : Bool) | notBoundary (unicode : Bool)
  | wordStart (unicode : Bool) | wordEnd (unicode : Bool)
  | wordStartHalf (unicode : Bool) | wordEndHalf (unicode : Bool)
  deriving DecidableEq, Repr

/-- What a pattern means. -/
inductive Meaning
  /-- The empty text. -/
  | empty
  /-- One character of a set. -/
  | set (s : CodeSet)
  /-- The empty text at some place. -/
  | place (p : Place)
  /-- One after the other. -/
  | seq (a b : Meaning)
  /-- Either. -/
  | alt (a b : Meaning)
  /-- From `least` to `most` times, or without limit. -/
  | repetition (least : Nat) (most : Option Nat) (body : Meaning)
  deriving Repr

/-! ## Sets -/

/-- The greatest member that a negated class may have: a code point, or a byte. -/
def Flags.limit (f : Flags) : Nat := if f.unicode then CodeSet.top else 0xFF

/-- A set closed under case where case is ignored. -/
def Flags.fold (f : Flags) (s : CodeSet) : CodeSet :=
  if f.ignoreCase then (if f.unicode then s.foldCase else s.foldAsciiCase) else s

/-- A set closed under case and then negated if asked for. Bytes beyond ASCII are parts of
characters, so a set that has them means nothing. -/
def Flags.finish? (f : Flags) (negated : Bool) (s : CodeSet) : Option CodeSet :=
  let s := f.fold s
  let s := if negated then s.complement f.limit else s
  if f.unicode || s.isAscii then some s else none

/-- The set of a short class. -/
def Flags.short? (f : Flags) (negated : Bool) (cls : ShortClass) : Option CodeSet :=
  let s := match cls, f.unicode with
    | .digit, true => digits
    | .space, true => blanks
    | .word, true => wordChars
    | .digit, false => asciiDigits
    | .space, false => asciiBlanks
    | .word, false => asciiWordChars
  let s := if negated then s.complement f.limit else s
  if f.unicode || s.isAscii then some s else none

/-- The set of a Unicode class, which needs Unicode to be on. -/
def Flags.query? (f : Flags) (negated : Bool) (query : Query) : Option CodeSet := do
  if !f.unicode then none
  let s ← match query with
    | .named name => named? name
    | .valued property value => valued? property value
  f.finish? negated s

/-- A character of a class; where Unicode is off it has to be one of ASCII. -/
def Flags.member? (f : Flags) (c : Literal) : Option Nat :=
  if f.unicode || c.char.val < 0x80 then some c.char.toNat else none

/-- The set of an item of a class. Sets are closed under case before an operation between them. -/
def Flags.item? (f : Flags) : ClassItem → Option CodeSet
  | .empty => some .empty
  | .literal c => do
    let n ← f.member? c
    some ⟨[(n, n)]⟩
  | .range a b => do
    let lo ← f.member? a
    let hi ← f.member? b
    some ⟨[(lo, hi)]⟩
  | .ascii negated name => do
    let s ← asciiClass? name
    f.finish? negated s
  | .unicode negated query => f.query? negated query
  | .short negated cls => f.short? negated cls
  | .bracketed negated body => do
    let s ← f.item? body
    f.finish? negated s
  | .union a b => do
    let s ← f.item? a
    let t ← f.item? b
    some (s.union t)
  | .op kind a b => do
    let s := f.fold (← f.item? a)
    let t := f.fold (← f.item? b)
    some <| match kind with
      | .inter => s.inter t
      | .diff => s.diff t
      | .symmDiff => s.symmDiff t

/-! ## Patterns -/

/-- The set of a character outside brackets. A byte escape beyond ASCII means nothing where Unicode
is off. -/
def Flags.literal? (f : Flags) (c : Literal) : Option CodeSet :=
  if !f.unicode && c.byByte && 0x80 ≤ c.char.val then none
  else if !f.ignoreCase then some (.single c.char)
  else if f.unicode then some (foldChar c.char)
  else some (foldAsciiChar c.char)

/-- The set of the dot. -/
def Flags.dot? (f : Flags) : Option CodeSet :=
  if !f.unicode then none
  else if f.dotAll then some (CodeSet.empty.complement CodeSet.top)
  else if f.crlf then some (CodeSet.complement CodeSet.top ⟨[(10, 10), (13, 13)]⟩)
  else some (CodeSet.complement CodeSet.top ⟨[(10, 10)]⟩)

/-- The place of an anchor. -/
def Flags.place (f : Flags) : Anchor → Place
  | .lineStart => if f.multiLine then (if f.crlf then .crlfStart else .lineStart) else .textStart
  | .lineEnd => if f.multiLine then (if f.crlf then .crlfEnd else .lineEnd) else .textEnd
  | .textStart => .textStart
  | .textEnd => .textEnd
  | .wordBoundary => .boundary f.unicode
  | .notWordBoundary => .notBoundary f.unicode
  | .wordStart => .wordStart f.unicode
  | .wordEnd => .wordEnd f.unicode
  | .wordStartHalf => .wordStartHalf f.unicode
  | .wordEndHalf => .wordEndHalf f.unicode

/-- The meaning of a pattern under some flags, and the flags after it. Flags set in one branch hold
in those that follow, up to the end of the group. -/
def Syntax.meaning? (f : Flags) : Syntax → Option (Meaning × Flags)
  | .empty => some (.empty, f)
  | .flags settings => some (.empty, f.apply settings)
  | .literal c => (f.literal? c).map fun s => (.set s, f)
  | .dot => f.dot?.map fun s => (.set s, f)
  | .anchor a => some (.place (f.place a), f)
  | .unicode negated query => (f.query? negated query).map fun s => (.set s, f)
  | .short negated cls => (f.short? negated cls).map fun s => (.set s, f)
  | .bracketed negated body => do
    let s ← f.item? body
    let s ← f.finish? negated s
    some (.set s, f)
  | .repetition least most body => do
    let (m, f) ← body.meaning? f
    some (.repetition least most m, f)
  | .group settings body => do
    let (m, _) ← body.meaning? (f.apply settings)
    some (m, f)
  | .seq a b => do
    let (m, f) ← a.meaning? f
    let (n, f) ← b.meaning? f
    some (.seq m n, f)
  | .alt a b => do
    let (m, f) ← a.meaning? f
    let (n, f) ← b.meaning? f
    some (.alt m n, f)

end Regex

end Blocklist
