import Blocklist.Text.Cut
import Blocklist.Url
/-!
# Filters — wildcard patterns

A pattern is a row of segments with `*` between them. A `*` stands for any
run of bytes, a `^` for one separator or for the end of the address. Each
segment is put at its first place after the one before; an anchor ties the
first segment to the beginning and the last one to the end.
-/

namespace Blocklist

namespace Glob

/-- The byte of `*`, any run of bytes. -/
def wildcard : UInt8 := 0x2A

/-- The byte of `^`, a separator or the end. -/
def separatorMark : UInt8 := 0x5E

/-- What is left of `input` after a segment at its beginning, where the segment matches there. -/
def afterSegment? : (segment input : List UInt8) → Option (List UInt8)
  | [], input => some input
  | p :: segment, [] => if p == separatorMark then afterSegment? segment [] else none
  | p :: segment, c :: input =>
    if p == separatorMark then
      if Url.isSeparator c then afterSegment? segment input else none
    else if p == c then afterSegment? segment input
    else none

/-- What is left of `input` after the first place where a segment matches. -/
def afterFirst? (segment : List UInt8) : (input : List UInt8) → Option (List UInt8)
  | [] => afterSegment? segment []
  | c :: input =>
    match afterSegment? segment (c :: input) with
    | some rest => some rest
    | none => afterFirst? segment input

/-- Whether a segment matches at some place and reaches the end of `input`. -/
def reachesEnd (segment : List UInt8) : (input : List UInt8) → Bool
  | [] => afterSegment? segment [] == some []
  | c :: input => afterSegment? segment (c :: input) == some [] || reachesEnd segment input

/-- Whether segments that each follow a `*` find their places in `input`, the last one at the end
where the right end is `anchored`. -/
def place (anchored : Bool) : (segments : List (List UInt8)) → (input : List UInt8) → Bool
  | [], input => !anchored || input.isEmpty
  | segment :: segments, input =>
    if anchored && segments.isEmpty then reachesEnd segment input
    else
      match afterFirst? segment input with
      | none => false
      | some rest => place anchored segments rest

/-- Whether a pattern matches somewhere in `input`, or at the ends that are anchored. -/
def isMatch (left right : Bool) (pattern input : List UInt8) : Bool :=
  let segments := pattern.splitOn wildcard
  if left then
    match segments with
    | [] => place right [] input
    | first :: segments =>
      match afterSegment? first input with
      | none => false
      | some rest => place right segments rest
  else place right segments input

end Glob

end Blocklist
