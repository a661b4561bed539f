import Blocklist.Text.Cut
/-!
# Hosts — numeric addresses

The written forms of internet addresses of both versions. Every reader hands
back what follows the part that it has read.
-/

namespace Blocklist

namespace Address

/-- A decimal digit. -/
def isDecimal (c : Char) : Bool := '0' ≤ c && c ≤ '9'

/-- A hexadecimal digit. -/
def isHexadecimal (c : Char) : Bool := isDecimal c || ('a' ≤ c && c ≤ 'f') || ('A' ≤ c && c ≤ 'F')

/-- The number that decimal digits stand for. -/
def decimalValue (digits : List Char) : Nat :=
  digits.foldl (fun n c => n * 10 + (c.toNat - '0'.toNat)) 0

/-- What follows a number of one to three digits that is at most 255 and has no zero in front. -/
def afterByte? (text : List Char) : Option (List Char) :=
  let digits := text.takeWhile isDecimal
  let padded := digits.length > 1 && digits.head? == some '0'
  if digits.isEmpty || 3 < digits.length || padded || 255 < decimalValue digits then none
  else some (text.dropWhile isDecimal)

/-- What follows `n` numbers, each after a dot. -/
def afterDotted? : (n : Nat) → List Char → Option (List Char)
  | 0, text => some text
  | n + 1, text => do afterDotted? n (← afterByte? (← Text.dropOpening? ['.'] text))

/-- What follows an address of version 4: four numbers with dots between. -/
def afterVersion4? (text : List Char) : Option (List Char) := do
  afterDotted? 3 (← afterByte? text)

/-- What follows a group of one to four hexadecimal digits. -/
def afterGroup? (text : List Char) : Option (List Char) :=
  let digits := text.takeWhile isHexadecimal
  if digits.isEmpty || 4 < digits.length then none else some (text.dropWhile isHexadecimal)

/-- A row of groups that has been read. -/
structure Groups where
  /-- How many groups there are; an address of version 4 counts as two. -/
  count : Nat
  /-- Whether an address of version 4 ends the row. -/
  dotted : Bool
  /-- What follows the row. -/
  rest : List Char
  deriving DecidableEq, Repr

/-- Reads groups with colons between while there is `room` for more; an address of version 4 takes
the room of two and ends the row. -/
def readGroups : (room : Nat) → (first : Bool) → List Char → Groups
  | 0, _, text => ⟨0, false, text⟩
  | room + 1, first, text =>
    match (if first then some text else Text.dropOpening? [':'] text) with
    | none => ⟨0, false, text⟩
    | some body =>
      match (if room = 0 then none else afterVersion4? body) with
      | some rest => ⟨2, true, rest⟩
      | none =>
        match afterGroup? body with
        | none => ⟨0, false, text⟩
        | some rest =>
          let more := readGroups room false rest
          ⟨more.count + 1, more.dotted, more.rest⟩

/-- What follows an address of version 6: eight groups, or fewer around a `::`. -/
def afterVersion6? (text : List Char) : Option (List Char) :=
  let head := readGroups 8 true text
  if head.count = 8 then some head.rest
  else if head.dotted then none
  else
    (Text.dropOpening? [':', ':'] head.rest).map fun rest =>
      (readGroups (7 - head.count) true rest).rest

end Address

namespace Host

/-- Whether a text is an internet address of either version and nothing else. -/
def isAddress (text : List Char) : Bool :=
  match Address.afterVersion4? text with
  | some rest => rest.isEmpty
  | none => Address.afterVersion6? text == some []

end Host

end Blocklist
