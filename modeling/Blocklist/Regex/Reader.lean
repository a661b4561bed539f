import Blocklist.Text.Cut
import Blocklist.Unicode.Category
import Blocklist.Unicode.Table
import Blocklist.Regex.Property
import Blocklist.Regex.Syntax
/-!
# Patterns — reading

From the characters of a pattern to its syntax. Look-around and back
references are not part of the language, a brace always opens a count, and
a backslash before a letter or digit is an escape or an error. In verbose
stretches blanks and comments are skipped between tokens.
-/

namespace Blocklist

namespace Regex

namespace Reader

/-! ## Skipping -/

/-- Drops blanks and comments; a comment runs from `#` to the end of its line. -/
def skipFrom (inComment : Bool) : List Char → List Char
  | [] => []
  | c :: cs =>
    if inComment then skipFrom (c != '\n') cs
    else if Text.isBlank c then skipFrom false cs
    else if c == '#' then skipFrom true cs
    else c :: cs

/-- Drops blanks and comments in verbose stretches. -/
def skip (verbose : Bool) (cs : List Char) : List Char := if verbose then skipFrom false cs else cs

/-- Goes past one character and what may be skipped after it. -/
def advance (verbose : Bool) (cs : List Char) : List Char := skip verbose cs.tail

/-- The characters up to the first that fails `p`, without those that may be skipped. -/
def takeRun (verbose : Bool) (p : Char → Bool) (inComment : Bool) :
    List Char → List Char × List Char
  | [] => ([], [])
  | c :: cs =>
    if inComment then takeRun verbose p (c != '\n') cs
    else if verbose && Text.isBlank c then takeRun verbose p false cs
    else if verbose && c == '#' then takeRun verbose p true cs
    else if p c then
      let (run, rest) := takeRun verbose p false cs
      (c :: run, rest)
    else ([], c :: cs)

/-- The characters up to a closing brace, and what follows it. -/
def takeBraced? (verbose : Bool) (cs : List Char) : Option (List Char × List Char) :=
  match takeRun verbose (· != '}') false cs with
  | (run, _ :: rest) => some (run, rest)
  | (_, []) => none

/-! ## Escapes -/

/-- What a single token stands for. -/
inductive Token
  | literal (c : Literal)
  | anchor (a : Anchor)
  | unicode (negated : Bool) (query : Query)
  | short (negated : Bool) (cls : ShortClass)

/-- A hexadecimal digit. -/
def isHex (c : Char) : Bool :=
  c.isDigit || ('a' ≤ c && c ≤ 'f') || ('A' ≤ c && c ≤ 'F')

/-- Characters that have a meaning of their own somewhere in a pattern. -/
def isMeta (c : Char) : Bool :=
  "\\.+*?()|[]\x7b\x7d^$#&-~".toList.contains c

/-- Whether a backslash makes a character stand for itself: ASCII other than letters, digits and
angle brackets. -/
def isEscapable (c : Char) : Bool :=
  isMeta c || (c.val < 0x80 && !c.isAlphanum && c != '<' && c != '>')

/-- The character with a hexadecimal number. -/
def hexChar? (digits : List Char) : Option Char :=
  let n := Unicode.hexNumber digits
  if !digits.isEmpty && n.isValidChar then some (Char.ofNat n) else none

/-- Takes exactly `n` hexadecimal digits. -/
def takeHex? (verbose : Bool) : Nat → List Char → Option (List Char × List Char)
  | 0, cs => some ([], cs)
  | _ + 1, [] => none
  | n + 1, c :: cs =>
    if isHex c then
      (takeHex? verbose n (skip verbose cs)).map fun (digits, rest) => (c :: digits, rest)
    else none

/-- The character after `\x`, `\u` or `\U`: `n` digits, or any number of them in braces. -/
def hexEscape? (verbose : Bool) (n : Nat) (cs : List Char) : Option (Token × List Char) :=
  match skip verbose cs with
  | '{' :: cs => do
    let (digits, rest) ← takeBraced? verbose cs
    if digits.all isHex then
      let c ← hexChar? digits
      some (.literal ⟨c, false⟩, skip verbose rest)
    else none
  | cs => do
    let (digits, rest) ← takeHex? verbose n cs
    let c ← hexChar? digits
    some (.literal ⟨c, n == 2⟩, rest)

/-- A class after `\p` or `\P`: one letter, or a name in braces, with a value after `!=`, `:` or
`=`. -/
def unicodeEscape? (verbose negated : Bool) (cs : List Char) : Option (Token × List Char) :=
  match skip verbose cs with
  | [] => none
  | '{' :: cs => do
    let (name, rest) ← takeBraced? verbose cs
    match Text.cut? '!' name with
    | some (property, '=' :: value) => some (.unicode (!negated) (.valued property value), rest)
    | _ =>
      match (Text.cut? ':' name).orElse fun _ => Text.cut? '=' name with
      | some (property, value) => some (.unicode negated (.valued property value), rest)
      | none => some (.unicode negated (.named name), rest)
  | '\\' :: _ => none
  | c :: cs => some (.unicode negated (.named [c]), skip verbose cs)

/-- The place that a word in braces after `\b` names; `none` where what follows is a count. -/
def boundaryName? (verbose : Bool) (cs : List Char) : Option (Option (Anchor × List Char)) :=
  let isNameChar := fun (c : Char) => c.isAlpha || c == '-'
  match skip verbose cs with
  | [] => none
  | c :: _ =>
    if !isNameChar c then some none
    else
      match takeRun verbose isNameChar false cs with
      | (name, '}' :: rest) =>
        match String.ofList name with
        | "start" => some (some (.wordStart, rest))
        | "end" => some (some (.wordEnd, rest))
        | "start-half" => some (some (.wordStartHalf, rest))
        | "end-half" => some (some (.wordEndHalf, rest))
        | _ => none
      | _ => none

/-- What follows a backslash. -/
def escape? (verbose : Bool) : List Char → Option (Token × List Char)
  | [] => none
  | c :: cs =>
    let special := fun (ch : Char) => some (Token.literal ⟨ch, false⟩, cs)
    match c with
    | 'x' => hexEscape? verbose 2 cs
    | 'u' => hexEscape? verbose 4 cs
    | 'U' => hexEscape? verbose 8 cs
    | 'p' => unicodeEscape? verbose false cs
    | 'P' => unicodeEscape? verbose true cs
    | 'd' => some (.short false .digit, cs)
    | 'D' => some (.short true .digit, cs)
    | 's' => some (.short false .space, cs)
    | 'S' => some (.short true .space, cs)
    | 'w' => some (.short false .word, cs)
    | 'W' => some (.short true .word, cs)
    | 'a' => special '\x07'
    | 'f' => special '\x0C'
    | 't' => special '\t'
    | 'n' => special '\n'
    | 'r' => special '\r'
    | 'v' => special '\x0B'
    | 'A' => some (.anchor .textStart, cs)
    | 'z' => some (.anchor .textEnd, cs)
    | 'B' => some (.anchor .notWordBoundary, cs)
    | '<' => some (.anchor .wordStart, cs)
    | '>' => some (.anchor .wordEnd, cs)
    | 'b' =>
      match cs with
      | '{' :: inner => do
        match ← boundaryName? verbose inner with
        | some (a, rest) => some (.anchor a, rest)
        | none => some (.anchor .wordBoundary, cs)
      | _ => some (.anchor .wordBoundary, cs)
    | _ => if isEscapable c then special c else none

/-! ## Classes in brackets -/

/-- A class or an operation that is still open. -/
inductive Level
  /-- A bracket, and the items before it in the class around it, last first. -/
  | bracket (negated : Bool) (outer : List ClassItem)
  /-- An operation that waits for its second set. -/
  | op (kind : SetOp) (first : ClassItem)

/-- The items of a class, last first, as one. -/
def unionOf : List ClassItem → ClassItem
  | [] => .empty
  | [item] => item
  | item :: items => items.foldl (fun acc i => .union i acc) item

/-- Gives a set to the operation that waits for it, if one does. -/
def closeOp (set : ClassItem) : List Level → ClassItem × List Level
  | .op kind first :: levels => (.op kind first set, levels)
  | levels => (set, levels)

/-- Reads from an opening bracket up to the first item: a caret negates, and hyphens, or else one
closing bracket, stand for themselves there. -/
def openClass? (verbose : Bool) (cs : List Char) : Option (Bool × List ClassItem × List Char) :=
  let cs := advance verbose cs
  let negated := cs.head? == some '^'
  let cs := if negated then advance verbose cs else cs
  let literal := fun (c : Char) => ClassItem.literal ⟨c, false⟩
  match takeRun verbose (· == '-') false cs with
  | (_, []) => none
  | ([], ']' :: rest) =>
    match skip verbose rest with
    | [] => none
    | rest => some (negated, [literal ']'], rest)
  | (hyphens, rest) => some (negated, hyphens.map literal, rest)

/-- A class such as `[:alpha:]`, with what follows it. -/
def asciiClass? : List Char → Option (ClassItem × List Char)
  | '[' :: ':' :: cs => do
    let negated := cs.head? == some '^'
    let (name, rest) ← Text.cut? ':' (if negated then cs.tail else cs)
    let _ ← Regex.asciiClass? (String.ofList name)
    match rest with
    | ']' :: rest => some (.ascii negated (String.ofList name), rest)
    | _ => none
  | _ => none

/-- One token of a class. -/
def classToken? (verbose : Bool) : List Char → Option (Token × List Char)
  | [] => none
  | '\\' :: cs => escape? verbose cs
  | c :: cs => some (.literal ⟨c, false⟩, cs)

/-- A token as an item; places have no place in a class. -/
def itemOf? : Token → Option ClassItem
  | .literal c => some (.literal c)
  | .anchor _ => none
  | .unicode negated query => some (.unicode negated query)
  | .short negated cls => some (.short negated cls)

/-- The character after the one at hand, past what may be skipped. -/
def peek (verbose : Bool) (cs : List Char) : Option Char :=
  let rest := cs.tail
  if verbose then
    match rest.dropWhile Text.isBlank with
    | '#' :: rest => (rest.dropWhile Text.isBlank).head?
    | rest => rest.head?
  else rest.head?

/-- One item of a class: a token, or two characters with a hyphen between. -/
def classItem? (verbose : Bool) (cs : List Char) : Option (ClassItem × List Char) := do
  let (first, cs) ← classToken? verbose cs
  let cs := skip verbose cs
  match cs with
  | [] => none
  | c :: _ =>
    if c != '-' || peek verbose cs == some ']' || peek verbose cs == some '-' then
      some (← itemOf? first, cs)
    else
      let (last, cs) ← classToken? verbose (advance verbose cs)
      match first, last with
      | .literal a, .literal b => if a.char ≤ b.char then some (.range a b, cs) else none
      | _, _ => none

/-- Reads a class after its opening bracket. Each turn takes a character or more. -/
def classBody? (verbose : Bool) :
    (fuel : Nat) → List Level → List ClassItem → List Char → Option (Syntax × List Char)
  | 0, _, _, _ => none
  | fuel + 1, levels, items, cs =>
    let operation := fun (kind : SetOp) (rest : List Char) =>
      let (set, levels) := closeOp (unionOf items) levels
      classBody? verbose fuel (.op kind set :: levels) [] rest
    match skip verbose cs with
    | [] => none
    | '[' :: cs =>
      match asciiClass? ('[' :: cs) with
      | some (item, rest) => classBody? verbose fuel levels (item :: items) rest
      | none => do
        let (negated, first, rest) ← openClass? verbose ('[' :: cs)
        classBody? verbose fuel (.bracket negated items :: levels) first rest
    | ']' :: rest =>
      match closeOp (unionOf items) levels with
      | (set, [.bracket negated _]) => some (.bracketed negated set, rest)
      | (set, .bracket negated outer :: levels) =>
        classBody? verbose fuel levels (.bracketed negated set :: outer) rest
      | _ => none
    | '&' :: '&' :: rest => operation .inter rest
    | '-' :: '-' :: rest => operation .diff rest
    | '~' :: '~' :: rest => operation .symmDiff rest
    | cs => do
      let (item, rest) ← classItem? verbose cs
      classBody? verbose fuel levels (item :: items) rest

/-- A class in brackets. -/
def class? (verbose : Bool) (cs : List Char) : Option (Syntax × List Char) := do
  let (negated, first, rest) ← openClass? verbose cs
  classBody? verbose (rest.length + 1) [.bracket negated []] first rest

/-! ## Groups and flags -/

/-- The flag of a letter. -/
def flag? : Char → Option Flag
  | 'i' => some .ignoreCase
  | 'm' => some .multiLine
  | 's' => some .dotAll
  | 'U' => some .swapGreed
  | 'u' => some .unicode
  | 'R' => some .crlf
  | 'x' => some .verbose
  | _ => none

/-- Flags up to a colon or a closing parenthesis: no letter twice, one hyphen at most, and a letter
after it. -/
def flags? (on : Bool) (read : Settings) : List Char → Option (Settings × List Char)
  | [] => none
  | c :: cs =>
    if c == ':' || c == ')' then some (read, c :: cs)
    else if c == '-' then
      if !on || cs.head? == some ':' || cs.head? == some ')' then none else flags? false read cs
    else
      match flag? c with
      | none => none
      | some f =>
        if read.any (·.1 == f) then none else flags? on (read ++ [(f, on)]) cs

/-- The last word of some settings on a flag. -/
def setting? (settings : Settings) (f : Flag) : Option Bool :=
  (settings.find? (·.1 == f)).map Prod.snd

/-- A character that the name of a group may begin with, or go on with. -/
def isNameChar (first : Bool) (c : Char) : Bool :=
  c == '_' || letters.contains c
    || (!first && (c == '.' || c == '[' || c == ']'
      || ["Nd", "Nl", "No"].contains (Unicode.category c)))

/-- The name of a group up to `>`. -/
def groupName? (cs : List Char) : Option (List Char × List Char) :=
  match Text.cut? '>' cs with
  | some (c :: name, rest) =>
    if isNameChar true c && name.all (isNameChar false) then some (c :: name, rest) else none
  | _ => none

/-- What an opening parenthesis begins. -/
inductive Opening
  /-- Flags for the rest of the group it stands in. -/
  | flags (settings : Settings)
  /-- A group, under a name or not, with flags of its own or not. -/
  | group (name : Option (List Char)) (settings : Settings)

/-- Reads the beginning of a group after its parenthesis. -/
def opening? (cs : List Char) : Option (Opening × List Char) :=
  match cs with
  | '?' :: '=' :: _ | '?' :: '!' :: _ | '?' :: '<' :: '=' :: _ | '?' :: '<' :: '!' :: _ => none
  | '?' :: 'P' :: '<' :: cs | '?' :: '<' :: cs =>
    (groupName? cs).map fun (name, rest) => (.group (some name) [], rest)
  | '?' :: cs => do
    match ← flags? true [] cs with
    | ([], ')' :: _) => none
    | (settings, ')' :: rest) => some (.flags settings, rest)
    | (settings, _ :: rest) => some (.group none settings, rest)
    | (_, []) => none
  | cs => some (.group none [], cs)

/-! ## Repetition -/

/-- A decimal number that fits into a word, with blanks around it. -/
def decimal? (verbose : Bool) (cs : List Char) : Option (Nat × List Char) :=
  let (digits, rest) := takeRun verbose Char.isDigit false (cs.dropWhile Text.isBlank)
  let n := digits.foldl (fun n c => n * 10 + (c.toNat - '0'.toNat)) 0
  if digits.isEmpty || UInt32.size ≤ n then none
  else some (n, skip verbose (rest.dropWhile Text.isBlank))

/-- The bounds of a count after its opening brace. -/
def count? (verbose : Bool) (cs : List Char) : Option ((Nat × Option Nat) × List Char) := do
  let (least, cs) ← decimal? verbose (skip verbose cs)
  match cs with
  | '}' :: rest => some ((least, some least), rest)
  | ',' :: cs =>
    match skip verbose cs with
    | '}' :: rest => some ((least, none), rest)
    | cs => do
      match ← decimal? verbose cs with
      | (most, '}' :: rest) => if least ≤ most then some ((least, some most), rest) else none
      | _ => none
  | _ => none

/-- The text after a repetition, without the mark that makes it prefer fewer. -/
def afterRepetition (cs : List Char) : List Char := (Text.dropOpening? ['?'] cs).getD cs

/-- Repeats the last item of a branch, which may not be a setting of flags. -/
def repeatLast? (least : Nat) (most : Option Nat) : List Syntax → Option (List Syntax)
  | [] => none
  | .flags _ :: _ => none
  | item :: items => some (.repetition least most item :: items)

/-! ## Patterns -/

/-- A group that is still open, with what precedes it in the group around it. -/
structure Group where
  /-- Its flags. -/
  settings : Settings
  /-- Finished branches of the group around it, last first. -/
  branches : List Syntax
  /-- Items of the unfinished branch, last first. -/
  items : List Syntax
  /-- Whether blanks are skipped around it. -/
  verbose : Bool

/-- The reader between two tokens. -/
structure State where
  /-- The open groups, innermost first. -/
  groups : List Group
  /-- Finished branches of the innermost group, last first. -/
  branches : List Syntax
  /-- Items of the unfinished branch, last first. -/
  items : List Syntax
  /-- Whether blanks and comments are skipped. -/
  verbose : Bool
  /-- The names of groups so far. -/
  names : List (List Char)
  /-- What is left to read. -/
  rest : List Char

/-- Items of a branch, last first, as one pattern. -/
def seqOf : List Syntax → Syntax
  | [] => .empty
  | item :: items => items.foldl (fun acc i => .seq i acc) item

/-- The branches of the innermost group as one pattern. -/
def State.body (s : State) : Syntax :=
  s.branches.foldl (fun acc b => .alt b acc) (seqOf s.items)

/-- Adds an item to the unfinished branch. -/
def State.push (s : State) (item : Syntax) (rest : List Char) : State :=
  { s with items := item :: s.items, rest := rest }

/-- Adds a repetition of the last item. -/
def State.repeat? (s : State) (least : Nat) (most : Option Nat) (rest : List Char) :
    Option State := do
  let items ← repeatLast? least most s.items
  some { s with items := items, rest := afterRepetition rest }

/-- Reads what an opening parenthesis begins. -/
def State.open? (s : State) (cs : List Char) : Option State := do
  match ← opening? (skip s.verbose cs) with
  | (.flags settings, rest) =>
    let s := s.push (.flags settings) rest
    some { s with verbose := (setting? settings .verbose).getD s.verbose }
  | (.group name settings, rest) =>
    if name.any s.names.contains then none
    else
      some
        { groups := ⟨settings, s.branches, s.items, s.verbose⟩ :: s.groups
          branches := []
          items := []
          verbose := (setting? settings .verbose).getD s.verbose
          names := name.toList ++ s.names
          rest := rest }

/-- Closes the innermost group. -/
def State.close? (s : State) (rest : List Char) : Option State :=
  match s.groups with
  | [] => none
  | g :: groups => some
    { s with
      groups := groups
      branches := g.branches
      items := .group g.settings s.body :: g.items
      verbose := g.verbose
      rest := rest }

/-- Reads one token. -/
def State.step? (s : State) : Option State :=
  match s.rest with
  | [] => none
  | c :: cs =>
    match c with
    | '(' => s.open? cs
    | ')' => s.close? cs
    | '|' => some { s with branches := seqOf s.items :: s.branches, items := [], rest := cs }
    | '[' => do
      let (cls, rest) ← class? s.verbose (c :: cs)
      some (s.push cls rest)
    | '?' => s.repeat? 0 (some 1) cs
    | '*' => s.repeat? 0 none cs
    | '+' => s.repeat? 1 none cs
    | '{' => do
      let ((least, most), rest) ← count? s.verbose cs
      s.repeat? least most (skip s.verbose rest)
    | '.' => some (s.push .dot cs)
    | '^' => some (s.push (.anchor .lineStart) cs)
    | '$' => some (s.push (.anchor .lineEnd) cs)
    | '\\' => do
      let (token, rest) ← escape? s.verbose cs
      some <| match token with
        | .literal c => s.push (.literal c) rest
        | .anchor a => s.push (.anchor a) rest
        | .unicode negated query => s.push (.unicode negated query) rest
        | .short negated cls => s.push (.short negated cls) rest
    | c => some (s.push (.literal ⟨c, false⟩) cs)

/-- Reads to the end; every group has to be closed there. Each turn takes a character or more. -/
def State.run? : (fuel : Nat) → State → Option Syntax
  | 0, _ => none
  | fuel + 1, s =>
    let s := { s with rest := skip s.verbose s.rest }
    if s.rest.isEmpty then
      if s.groups.isEmpty then some s.body else none
    else
      match s.step? with
      | none => none
      | some s => s.run? fuel

end Reader

/-- The syntax of a pattern that is well formed and nests no deeper than 250 levels. -/
def Syntax.read? (source : List Char) : Option Syntax := do
  let s ← Reader.State.run? (source.length + 1) ⟨[], [], [], false, [], source⟩
  if s.levels.1 ≤ 250 then some s else none

end Regex

end Blocklist
