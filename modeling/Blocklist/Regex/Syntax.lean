/-!
# Patterns — what is written

The syntax of a pattern as it stands, before flags are resolved and names
looked up. Which group captures what does not matter to a yes-or-no
search, so groups keep their flags alone.
-/

namespace Blocklist

namespace Regex

/-- Switches that a pattern can turn on and off for what follows. -/
inductive Flag
  /-- `i`: letters stand for both cases. -/
  | ignoreCase
  /-- `m`: line anchors match at every line. -/
  | multiLine
  /-- `s`: the dot matches line feeds too. -/
  | dotAll
  /-- `U`: repetition prefers fewer by default. -/
  | swapGreed
  /-- `u`: classes and word boundaries go by Unicode. -/
  | unicode
  /-- `R`: lines end at carriage returns too. -/
  | crlf
  /-- `x`: blanks and comments in the pattern are skipped. -/
  | verbose
  deriving DecidableEq, Repr

/-- Flags in the order written, each with whether it is turned on. -/
abbrev Settings := List (Flag × Bool)

/-- A character as written. -/
structure Literal where
  /-- The character. -/
  char : Char
  /-- Whether it was written as `\x` and two digits, which names a byte where Unicode is off. -/
  byByte : Bool
  deriving DecidableEq, Repr

/-- Places that a pattern can ask for without taking a character. -/
inductive Anchor
  /-- `^` -/
  | lineStart
  /-- `$` -/
  | lineEnd
  /-- `\A` -/
  | textStart
  /-- `\z` -/
  | textEnd
  /-- `\b` -/
  | wordBoundary
  /-- `\B` -/
  | notWordBoundary
  /-- A boundary with the word after it. -/
  | wordStart
  /-- A boundary with the word before it. -/
  | wordEnd
  /-- No word character before. -/
  | wordStartHalf
  /-- No word character after. -/
  | wordEndHalf
  deriving DecidableEq, Repr

/-- The short classes. -/
inductive ShortClass
  | digit | space | word
  deriving DecidableEq, Repr

/-- How a Unicode class is asked for. -/
inductive Query
  /-- By the name of a property, category or script. -/
  | named (name : List Char)
  /-- By a property and its value. -/
  | valued (property value : List Char)
  deriving DecidableEq, Repr

/-- Operations between the sets of a bracketed class. -/
inductive SetOp
  | inter | diff | symmDiff
  deriving DecidableEq, Repr

/-- What can stand in a bracketed class. -/
inductive ClassItem
  /-- Nothing. -/
  | empty
  /-- One character. -/
  | literal (c : Literal)
  /-- All characters from one to another. -/
  | range (first last : Literal)
  /-- A named ASCII class. -/
  | ascii (negated : Bool) (name : String)
  /-- A Unicode class. -/
  | unicode (negated : Bool) (query : Query)
  /-- A short class. -/
  | short (negated : Bool) (cls : ShortClass)
  /-- A class in brackets. -/
  | bracketed (negated : Bool) (body : ClassItem)
  /-- Two items side by side. -/
  | union (a b : ClassItem)
  /-- An operation between two sets. -/
  | op (kind : SetOp) (a b : ClassItem)
  deriving Repr

/-- A pattern as written. -/
inductive Syntax
  /-- Nothing. -/
  | empty
  /-- Flags for the rest of the group. -/
  | flags (settings : Settings)
  /-- One character. -/
  | literal (c : Literal)
  /-- Any character, but for line ends. -/
  | dot
  /-- A place. -/
  | anchor (a : Anchor)
  /-- A Unicode class outside brackets. -/
  | unicode (negated : Bool) (query : Query)
  /-- A short class outside brackets. -/
  | short (negated : Bool) (cls : ShortClass)
  /-- A class in brackets. -/
  | bracketed (negated : Bool) (body : ClassItem)
  /-- From `least` to `most` times, or without limit. -/
  | repetition (least : Nat) (most : Option Nat) (body : Syntax)
  /-- A group, with the flags that hold inside it. -/
  | group (settings : Settings) (body : Syntax)
  /-- One after the other. -/
  | seq (a b : Syntax)
  /-- Either. -/
  | alt (a b : Syntax)
  deriving Repr, Inhabited

/-! ## Nesting

Brackets, groups, repetitions, sequences and alternatives count as levels;
a sequence of any length is one level, and so is a row of alternatives. -/

namespace ClassItem

/-- The levels of an item by itself, and as a further item of a row it stands in. -/
def levels : ClassItem → Nat × Nat
  | .bracketed _ body => let n := body.levels.1 + 1; (n, n)
  | .union a b => let n := max a.levels.2 b.levels.2; (n + 1, n)
  | .op _ a b => let n := max a.levels.1 b.levels.1 + 1; (n, n)
  | _ => (0, 0)

end ClassItem

namespace Syntax

/-- The levels of a pattern by itself, inside a sequence, and inside a row of alternatives. -/
def levels : Syntax → Nat × Nat × Nat
  | .bracketed _ body => let n := body.levels.1 + 1; (n, n, n)
  | .repetition _ _ body => let n := body.levels.1 + 1; (n, n, n)
  | .group _ body => let n := body.levels.1 + 1; (n, n, n)
  | .seq a b => let n := max a.levels.2.1 b.levels.2.1; (n + 1, n, n + 1)
  | .alt a b => let n := max a.levels.2.2 b.levels.2.2; (n + 1, n + 1, n)
  | _ => (0, 0, 0)

end Syntax

end Regex

end Blocklist
