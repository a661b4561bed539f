import Blocklist.Outside
import Blocklist.Regex.Meaning
import Blocklist.Regex.Reader
/-!
# Patterns — programs

A pattern is run as a program of few kinds of steps. All ways through the
program are followed side by side, one character of the text at a time, so
a search takes time in proportion to the text whatever the pattern is.
-/

namespace Blocklist

namespace Regex

/-- A step of a program; the numbers are those of the steps that may come next. -/
inductive Step
  /-- Takes a character of the set. -/
  | take (s : CodeSet) (next : Nat)
  /-- Goes on at some place only. -/
  | require (p : Place) (next : Nat)
  /-- Goes on both ways. -/
  | fork (a b : Nat)
  /-- The text matches. -/
  | accept
  deriving Repr, Inhabited

/-- A program and the step it begins with. -/
structure Program where
  /-- The steps. -/
  steps : Array Step
  /-- The first step. -/
  start : Nat
  deriving Repr

/-! ## From meanings to programs -/

namespace Meaning

/-- Whether only the empty text can match. -/
def takesNothing : Meaning → Bool
  | .empty => true
  | .set _ => false
  | .place _ => true
  | .seq a b => a.takesNothing && b.takesNothing
  | .alt a b => a.takesNothing && b.takesNothing
  | .repetition _ most body => most == some 0 || body.takesNothing

/-- The bounds of a repetition; what takes nothing is as good once as often. -/
def bounds (least : Nat) (most : Option Nat) (body : Meaning) : Nat × Option Nat :=
  if body.takesNothing then (min least 1, some (min (most.getD 1) 1)) else (least, most)

/-- The room a set takes: a step for a character, a branching step for more, and a small automaton
where characters take several bytes. -/
def setCost (s : CodeSet) : Nat :=
  match s.ranges with
  | [(lo, hi)] =>
    if lo = hi then
      if lo < 0x80 then 32 else if lo < 0x800 then 64 else if lo < 0x10000 then 96 else 128
    else if hi < 0x80 then 72 else 256
  | ranges => if s.isAscii then 64 + 8 * ranges.length else 192 + 64 * ranges.length

/-- The room a program takes, in bytes, with every repetition written out. -/
def cost : Meaning → Nat
  | .empty => 32
  | .set s => setCost s
  | .place _ => 32
  | .seq a b => a.cost + b.cost
  | .alt a b => a.cost + b.cost + 72
  | .repetition least most body =>
    match bounds least most body with
    | (least, none) => (least + 1) * body.cost + 72
    | (least, some most) => least * body.cost + (most - least) * (body.cost + 40) + 32

/-- The most room a program may take. -/
def room : Nat := 10 * 1024 * 1024

/-- Puts `n` copies one before the other. -/
def copies (copy : Nat → Array Step → Nat × Array Step) :
    Nat → Nat → Array Step → Nat × Array Step
  | 0, next, steps => (next, steps)
  | n + 1, next, steps =>
    let (entry, steps) := copy next steps
    copies copy n entry steps

/-- Adds steps that match a meaning and then go on at `next`; gives the step to begin with. -/
def assemble : Meaning → (next : Nat) → Array Step → Nat × Array Step
  | .empty, next, steps => (next, steps)
  | .set s, next, steps => (steps.size, steps.push (.take s next))
  | .place p, next, steps => (steps.size, steps.push (.require p next))
  | .seq a b, next, steps =>
    let (middle, steps) := b.assemble next steps
    a.assemble middle steps
  | .alt a b, next, steps =>
    let (first, steps) := a.assemble next steps
    let (second, steps) := b.assemble next steps
    (steps.size, steps.push (.fork first second))
  | .repetition least most body, next, steps =>
    match bounds least most body with
    | (least, none) =>
      let loop := steps.size
      let (entry, steps) := body.assemble loop (steps.push (.fork next next))
      copies body.assemble least loop (steps.setIfInBounds loop (.fork entry next))
    | (least, some most) =>
      let optional := fun inner steps =>
        let (entry, steps) := body.assemble inner steps
        (steps.size, steps.push (Step.fork entry next))
      let (entry, steps) := copies optional (most - least) next steps
      copies body.assemble least entry steps

/-- The program of a meaning. -/
def program (m : Meaning) : Program :=
  let (start, steps) := m.assemble 0 #[.accept]
  ⟨steps, start⟩

end Meaning

/-! ## Running -/

/-- A word character. -/
def isWord (unicode : Bool) (c : Char) : Bool :=
  (if unicode then wordChars else asciiWordChars).contains c

/-- Whether the spot between two characters, or an end of the text, is such a place. -/
def Place.holds (before after : Option Char) : Place → Bool
  | .textStart => before.isNone
  | .textEnd => after.isNone
  | .lineStart => before.all (· == '\n')
  | .lineEnd => after.all (· == '\n')
  | .crlfStart => before.all fun c => c == '\n' || (c == '\r' && after != some '\n')
  | .crlfEnd => after.all fun c => c == '\r' || (c == '\n' && before != some '\r')
  | .boundary u => before.any (isWord u) != after.any (isWord u)
  | .notBoundary u => before.any (isWord u) == after.any (isWord u)
  | .wordStart u => !before.any (isWord u) && after.any (isWord u)
  | .wordEnd u => before.any (isWord u) && !after.any (isWord u)
  | .wordStartHalf u => !before.any (isWord u)
  | .wordEndHalf u => !after.any (isWord u)

/-- What can be reached without taking a character. -/
structure Reached where
  /-- Whether the text matches. -/
  accepted : Bool
  /-- The sets that can take the next character, and the steps after them. -/
  takers : List (CodeSet × Nat)

namespace Program

/-- Follows every way from the steps in `todo`; `seen` marks the steps that were followed. Each step
is followed once and leads to two others at most. -/
def reach (p : Program) (before after : Option Char) :
    (fuel : Nat) → (todo : List Nat) → (seen : Array Bool) → Reached → Reached
  | 0, _, _, found => found
  | _, [], _, found => found
  | fuel + 1, n :: todo, seen, found =>
    if seen.getD n true then p.reach before after fuel todo seen found
    else
      let seen := seen.setIfInBounds n true
      match p.steps[n]? with
      | none => p.reach before after fuel todo seen found
      | some .accept => { found with accepted := true }
      | some (.take s next) =>
        p.reach before after fuel todo seen { found with takers := (s, next) :: found.takers }
      | some (.require place next) =>
        let todo := if place.holds before after then next :: todo else todo
        p.reach before after fuel todo seen found
      | some (.fork a b) => p.reach before after fuel (a :: b :: todo) seen found

/-- Whether some part of the text from here on matches, or some part under way can be finished. -/
def search (p : Program) (before : Option Char) (underWay : List Nat) : List Char → Bool
  | [] =>
    let fuel := underWay.length + 2 * p.steps.size + 2
    (p.reach before none fuel (p.start :: underWay)
      (Array.replicate p.steps.size false) ⟨false, []⟩).accepted
  | c :: cs =>
    let fuel := underWay.length + 2 * p.steps.size + 2
    let found := p.reach before (some c) fuel (p.start :: underWay)
      (Array.replicate p.steps.size false) ⟨false, []⟩
    found.accepted
      || p.search (some c)
        (found.takers.filterMap fun (s, next) => if s.contains c then some next else none) cs

/-- Whether some part of a text matches. -/
def isMatch (p : Program) (text : String) : Bool := p.search none [] text.toList

end Program

/-- The program of a pattern, where it is well formed, means something and is not too large. -/
def compile? (source : String) (ignoreCase : Bool) : Option Program := do
  let written ← Syntax.read? source.toList
  let (m, _) ← written.meaning? { ignoreCase := ignoreCase }
  if m.cost ≤ Meaning.room then some m.program else none

end Regex

/-- A check that reads the source and makes its program. It knows no classes by script extension,
age or boundary, and how much room a program takes is estimated. -/
def RegexCheck.compiled : RegexCheck := fun source matchCase =>
  if (Regex.compile? source (!matchCase)).isSome then none
  else some "the pattern cannot be compiled"

/-- A search by the program of the source; one that does not compile matches nothing. -/
def RegexSearch.compiled : RegexSearch := fun source matchCase text =>
  (Regex.compile? source (!matchCase)).any (·.isMatch text)

end Blocklist
