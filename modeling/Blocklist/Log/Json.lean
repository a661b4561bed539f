import Blocklist.Text.Cut
/-!
# Logs — JSON

A text is first cut into tokens, and a value is then read from those. Strings
and numbers are kept as they are written, so that what they stand for is
asked only where it matters.
-/

namespace Blocklist

/-- A piece of JSON text. -/
inductive JsonToken where
  | openArray
  | closeArray
  | openObject
  | closeObject
  | colon
  | comma
  | null
  | bool (value : Bool)
  /-- A number, as it is written. -/
  | number (text : List Char)
  /-- What stands between the quotes of a string, escapes and all. -/
  | string (text : List Char)
  deriving DecidableEq, Repr

/-- A JSON value. -/
inductive JsonValue where
  | null
  | bool (value : Bool)
  /-- A number, as it is written. -/
  | number (text : List Char)
  /-- What stands between the quotes of a string, escapes and all. -/
  | string (text : List Char)
  | array (items : List JsonValue)
  /-- Names, as they are written, with their values. -/
  | object (members : List (List Char × JsonValue))
  deriving Repr

/-! ## Tokens -/

namespace JsonToken

/-- What may stand between tokens. -/
def isBlank (c : Char) : Bool := c == ' ' || c == '\t' || c == '\n' || c == '\r'

/-- A decimal digit. -/
def isDigit (c : Char) : Bool := '0' ≤ c && c ≤ '9'

/-- A hexadecimal digit. -/
def isHexDigit (c : Char) : Bool := isDigit c || ('a' ≤ c && c ≤ 'f') || ('A' ≤ c && c ≤ 'F')

/-- A character that may stand after a backslash by itself. -/
def isEscape (c : Char) : Bool := ['"', '\\', '/', 'b', 'f', 'n', 'r', 't'].contains c

/-- A string after its opening quote: what is in it, and what follows its closing quote. -/
def cutString? : List Char → Option (List Char × List Char)
  | [] => none
  | '"' :: rest => some ([], rest)
  | '\\' :: 'u' :: a :: b :: c :: d :: rest =>
    if [a, b, c, d].all isHexDigit then
      (cutString? rest).map fun cut => ('\\' :: 'u' :: a :: b :: c :: d :: cut.1, cut.2)
    else none
  | '\\' :: c :: rest =>
    if isEscape c then (cutString? rest).map fun cut => ('\\' :: c :: cut.1, cut.2) else none
  | c :: rest =>
    if c == '\\' || c < ' ' then none
    else (cutString? rest).map fun cut => (c :: cut.1, cut.2)

/-- The digits at the beginning of a text, of which there has to be one, and what follows. -/
def cutDigits? (text : List Char) : Option (List Char × List Char) :=
  if (text.takeWhile isDigit).isEmpty then none
  else some (text.takeWhile isDigit, text.dropWhile isDigit)

/-- The whole part of a number: a zero alone, or digits of which the first is no zero. -/
def cutWhole? : List Char → Option (List Char × List Char)
  | '0' :: rest => some (['0'], rest)
  | text => cutDigits? text

/-- The fraction of a number, if there is one. -/
def cutFraction? : List Char → Option (List Char × List Char)
  | '.' :: rest => (cutDigits? rest).map fun cut => ('.' :: cut.1, cut.2)
  | text => some ([], text)

/-- The sign of an exponent, if there is one. -/
def cutSign : List Char → List Char × List Char
  | '+' :: rest => (['+'], rest)
  | '-' :: rest => (['-'], rest)
  | text => ([], text)

/-- The exponent of a number, if there is one. -/
def cutExponent? : List Char → Option (List Char × List Char)
  | [] => some ([], [])
  | c :: rest =>
    if c == 'e' || c == 'E' then
      let (sign, digits) := cutSign rest
      (cutDigits? digits).map fun cut => (c :: sign ++ cut.1, cut.2)
    else some ([], c :: rest)

/-- A number without its sign, and what follows. -/
def cutMagnitude? (text : List Char) : Option (List Char × List Char) := do
  let (whole, rest) ← cutWhole? text
  let (fraction, rest) ← cutFraction? rest
  let (exponent, rest) ← cutExponent? rest
  return (whole ++ fraction ++ exponent, rest)

/-- A number, and what follows. -/
def cutNumber? : List Char → Option (List Char × List Char)
  | '-' :: rest => (cutMagnitude? rest).map fun cut => ('-' :: cut.1, cut.2)
  | text => cutMagnitude? text

/-- The first token of a text that does not begin with a blank, and what follows. -/
def cut? : List Char → Option (JsonToken × List Char)
  | '[' :: rest => some (openArray, rest)
  | ']' :: rest => some (closeArray, rest)
  | '\x7b' :: rest => some (openObject, rest)
  | '\x7d' :: rest => some (closeObject, rest)
  | ':' :: rest => some (colon, rest)
  | ',' :: rest => some (comma, rest)
  | '"' :: rest => (cutString? rest).map fun cut => (string cut.1, cut.2)
  | 'n' :: 'u' :: 'l' :: 'l' :: rest => some (null, rest)
  | 't' :: 'r' :: 'u' :: 'e' :: rest => some (bool true, rest)
  | 'f' :: 'a' :: 'l' :: 's' :: 'e' :: rest => some (bool false, rest)
  | text => (cutNumber? text).map fun cut => (number cut.1, cut.2)

/-- The tokens of a text. Every token takes a character at least, so there are no more of them than
`limit` where that is the length of the text. -/
def listUpTo : (limit : Nat) → List Char → Option (List JsonToken)
  | limit, text =>
    match limit, text.dropWhile isBlank with
    | _, [] => some []
    | 0, _ => none
    | limit + 1, text =>
      match cut? text with
      | none => none
      | some (token, rest) => (listUpTo limit rest).map (token :: ·)

/-- The tokens of a text. -/
def list? (text : List Char) : Option (List JsonToken) := listUpTo text.length text

end JsonToken

/-! ## Values -/

namespace JsonValue

/-- What is left of some tokens after others at their beginning. -/
abbrev After (tokens : List JsonToken) := { rest : List JsonToken // rest.length < tokens.length }

mutual

/-- The value that tokens begin with, and the tokens after it. -/
def read? (tokens : List JsonToken) : Option (JsonValue × After tokens) :=
  match tokens with
  | .null :: rest => some (.null, ⟨rest, by simp⟩)
  | .bool value :: rest => some (.bool value, ⟨rest, by simp⟩)
  | .number text :: rest => some (.number text, ⟨rest, by simp⟩)
  | .string text :: rest => some (.string text, ⟨rest, by simp⟩)
  | .openArray :: .closeArray :: rest =>
    some (.array [], ⟨rest, by simp only [List.length_cons]; omega⟩)
  | .openArray :: rest =>
    match readItems? rest with
    | none => none
    | some (items, ⟨left, h⟩) =>
      some (.array items, ⟨left, by simp only [List.length_cons]; omega⟩)
  | .openObject :: .closeObject :: rest =>
    some (.object [], ⟨rest, by simp only [List.length_cons]; omega⟩)
  | .openObject :: rest =>
    match readMembers? rest with
    | none => none
    | some (members, ⟨left, h⟩) =>
      some (.object members, ⟨left, by simp only [List.length_cons]; omega⟩)
  | _ => none
termination_by 2 * tokens.length
decreasing_by all_goals simp only [List.length_cons]; omega

/-- The items of an array up to its end. -/
def readItems? (tokens : List JsonToken) : Option (List JsonValue × After tokens) :=
  match read? tokens with
  | some (item, ⟨.closeArray :: rest, h⟩) =>
    some ([item], ⟨rest, by simp only [List.length_cons] at h; omega⟩)
  | some (item, ⟨.comma :: rest, h⟩) =>
    match readItems? rest with
    | none => none
    | some (items, ⟨left, h'⟩) =>
      some (item :: items, ⟨left, by simp only [List.length_cons] at h; omega⟩)
  | _ => none
termination_by 2 * tokens.length + 1
decreasing_by
  · omega
  · simp only [List.length_cons] at h; omega

/-- The members of an object up to its end. -/
def readMembers? (tokens : List JsonToken) :
    Option (List (List Char × JsonValue) × After tokens) :=
  match tokens with
  | .string name :: .colon :: tokens =>
    match read? tokens with
    | some (value, ⟨.closeObject :: rest, h⟩) =>
      some ([(name, value)], ⟨rest, by simp only [List.length_cons] at h ⊢; omega⟩)
    | some (value, ⟨.comma :: rest, h⟩) =>
      match readMembers? rest with
      | none => none
      | some (members, ⟨left, h'⟩) =>
        some ((name, value) :: members,
          ⟨left, by simp only [List.length_cons] at h ⊢; omega⟩)
    | _ => none
  | _ => none
termination_by 2 * tokens.length + 1
decreasing_by
  · simp only [List.length_cons]; omega
  · simp only [List.length_cons] at h ⊢; omega

end

/-- The value of a text that holds nothing else. -/
def ofText? (text : List Char) : Option JsonValue := do
  match ← read? (← JsonToken.list? text) with
  | (value, ⟨[], _⟩) => some value
  | _ => none

/-! ## What strings and numbers stand for -/

/-- The number that four hexadecimal digits stand for. -/
def unit (a b c d : Char) : Nat :=
  let digit (c : Char) : Nat :=
    if JsonToken.isDigit c then c.toNat - '0'.toNat else c.toLower.toNat - 'a'.toNat + 10
  ((digit a * 16 + digit b) * 16 + digit c) * 16 + digit d

/-- The character that an escape of one letter stands for. -/
def escaped : Char → Char
  | 'b' => '\x08'
  | 'f' => '\x0c'
  | 'n' => '\n'
  | 'r' => '\r'
  | 't' => '\t'
  | c => c

/-- The text that a string stands for; none where an escape names half a character. -/
def unescape? : List Char → Option (List Char)
  | [] => some []
  | '\\' :: 'u' :: a :: b :: c :: d :: rest =>
    let high := unit a b c d
    if high < 0xD800 || 0xE000 ≤ high then (unescape? rest).map (Char.ofNat high :: ·)
    else if 0xDC00 ≤ high then none
    else
      match rest with
      | '\\' :: 'u' :: a :: b :: c :: d :: rest =>
        let low := unit a b c d
        if 0xDC00 ≤ low && low < 0xE000 then
          let code := 0x10000 + (high - 0xD800) * 0x400 + (low - 0xDC00)
          (unescape? rest).map (Char.ofNat code :: ·)
        else none
      | _ => none
  | '\\' :: c :: rest => (unescape? rest).map (escaped c :: ·)
  | c :: rest => (unescape? rest).map (c :: ·)

/-- The text of a string. -/
def text? : JsonValue → Option String
  | string text => (unescape? text).map String.ofList
  | _ => none

/-- A number that is whole, not negative and below 2^64, and written with digits alone. -/
def natural? : JsonValue → Option UInt64
  | number digits =>
    let value := digits.foldl (fun n c => n * 10 + (c.toNat - '0'.toNat)) 0
    if digits.all JsonToken.isDigit && value < 18446744073709551616 then some value.toUInt64
    else none
  | _ => none

end JsonValue

end Blocklist
