import Std.Data.HashMap
import Blocklist.Unicode.Table
import Blocklist.Unicode.Data.Composition
/-!
# Unicode — canonical composition

Text in normal form C: every character is taken apart as far as it goes,
marks on one letter are put in the order of their classes, and then
letters and marks are put together again where a composite exists.
-/

namespace Blocklist

namespace Unicode

/-- The combining classes that are not zero. -/
def combiningTable : Table Nat :=
  .ofSpans <| (entries Data.combiningClasses).filterMap fun
    | [first, last, k] => some ⟨first, last, k⟩
    | _ => none

/-- The combining class of a character; zero for a letter that starts anew. -/
def combiningClass (c : Char) : Nat := (combiningTable.get? c).getD 0

/-- One step of canonical decomposition, by table. -/
def mappingTable : Table (List Char) :=
  .ofSpans <| (entries Data.composites ++ entries Data.oneWay).filterMap fun
    | c :: part :: parts => some ⟨c, c, (part :: parts).map Char.ofNat⟩
    | _ => none

/-- The composite of two characters, by their code points. -/
def compositeTable : Std.HashMap (Nat × Nat) Char :=
  .ofList <| (entries Data.composites).filterMap fun
    | [c, a, b] => some ((a, b), Char.ofNat c)
    | _ => none

/-! ## Hangul

Syllables are laid out so that their letters follow by division: 19
leading consonants, 21 vowels, and 27 trailing consonants or none. -/

/-- The letters of a Hangul syllable. -/
def hangulLetters? (c : Char) : Option (List Char) :=
  let n := c.toNat
  if 0xAC00 ≤ n && n ≤ 0xD7A3 then
    let s := n - 0xAC00
    let front := [Char.ofNat (0x1100 + s / 588), Char.ofNat (0x1161 + s % 588 / 28)]
    some (if s % 28 = 0 then front else front ++ [Char.ofNat (0x11A7 + s % 28)])
  else none

/-- The syllable of two Hangul letters, or of a syllable and its trailing consonant. -/
def hangulSyllable? (a b : Char) : Option Char :=
  let m := a.toNat
  let n := b.toNat
  if 0x1100 ≤ m && m ≤ 0x1112 && 0x1161 ≤ n && n ≤ 0x1175 then
    some (Char.ofNat (0xAC00 + ((m - 0x1100) * 21 + (n - 0x1161)) * 28))
  else if 0xAC00 ≤ m && m ≤ 0xD7A3 && (m - 0xAC00) % 28 = 0 && 0x11A8 ≤ n && n ≤ 0x11C2 then
    some (Char.ofNat (m + (n - 0x11A7)))
  else none

/-! ## Taking apart

A character is taken apart step by step, and marks go by their classes alone. -/

/-- The parts of a character, one step down. -/
def decomposition? (c : Char) : Option (List Char) :=
  (hangulLetters? c).or (mappingTable.get? c)

/-- The parts of a character after at most `depth` steps. -/
def takeApart (step? : Char → Option (List Char)) : (depth : Nat) → Char → List Char
  | 0, c => [c]
  | depth + 1, c =>
    match step? c with
    | some parts => parts.flatMap (takeApart step? depth)
    | none => [c]

/-- Puts a mark before those of higher class at the end of a reversed text. -/
def placeMark (level : Char → Nat) (c : Char) : List Char → List Char
  | [] => [c]
  | d :: back =>
    if 0 < level c && level c < level d then d :: placeMark level c back
    else c :: d :: back

/-- Canonical decomposition. No chain of mappings is longer than eight. -/
def decompose (text : List Char) : List Char :=
  ((text.flatMap (takeApart decomposition? 8)).foldl
    (fun back c => placeMark combiningClass c back) []).reverse

/-! ## Putting together -/

/-- The composite of a letter and what follows it. -/
def composite? (a b : Char) : Option Char :=
  (hangulSyllable? a b).orElse fun _ => compositeTable[(a.toNat, b.toNat)]?

/-- Puts together what follows `starter`: `marks` are those that stayed apart from it, last first. A
mark is out of reach behind one of its own class or a higher one. -/
def joinAfter (level : Char → Nat) (join? : Char → Char → Option Char) (starter : Char)
    (marks : List Char) : List Char → List Char
  | [] => starter :: marks.reverse
  | c :: rest =>
    let inReach := marks.head?.all fun m => level m < level c
    match (if inReach then join? starter c else none) with
    | some whole => joinAfter level join? whole marks rest
    | none =>
      if level c = 0 then starter :: (marks.reverse ++ joinAfter level join? c [] rest)
      else joinAfter level join? starter (c :: marks) rest

/-- Canonical composition of decomposed text. Marks before the first letter stay. -/
def compose (text : List Char) : List Char :=
  let lead := text.takeWhile fun c => combiningClass c != 0
  match text.dropWhile fun c => combiningClass c != 0 with
  | [] => lead
  | c :: rest => lead ++ joinAfter combiningClass composite? c [] rest

/-- Normal form C. A text in ASCII is in it already. -/
def normalForm (text : List Char) : List Char :=
  if Text.isAscii text then text else compose (decompose text)

end Unicode

end Blocklist
