import Blocklist.Text.Cut
/-!
# Unicode — tables of code points

Character data are kept as text: hexadecimal numbers, hyphens between the
numbers of one entry, blanks between entries. Reading them gives sorted
spans, and a look-up halves the spans that are left.
-/

namespace Blocklist

namespace Unicode

/-- The value of a hexadecimal digit; anything else counts as zero. -/
def hexValue (c : Char) : Nat :=
  if '0' ≤ c && c ≤ '9' then c.toNat - '0'.toNat
  else if 'A' ≤ c && c ≤ 'F' then c.toNat - 'A'.toNat + 10
  else if 'a' ≤ c && c ≤ 'f' then c.toNat - 'a'.toNat + 10
  else 0

/-- The number that hexadecimal digits write. -/
def hexNumber (digits : List Char) : Nat := digits.foldl (fun n c => n * 16 + hexValue c) 0

/-- The entries of a table, each a list of numbers. -/
def entries (data : String) : List (List Nat) :=
  (Text.words data.toList).map fun entry => (entry.splitOn '-').map hexNumber

/-- Neighbouring code points that share a value. -/
structure Span (α : Type) where
  /-- First code point of the span. -/
  first : Nat
  /-- Last code point of the span. -/
  last : Nat
  /-- What holds of all of them. -/
  value : α

/-- The spans of entries that hold a first and a last code point, or one code point alone. -/
def rangesOf {α : Type} (data : String) (value : α) : List (Span α) :=
  (entries data).filterMap fun
    | [c] => some ⟨c, c, value⟩
    | [first, last] => some ⟨first, last, value⟩
    | _ => none

/-- Spans in ascending order, none touching another. -/
structure Table (α : Type) where
  /-- The spans. -/
  spans : Array (Span α)

namespace Table

variable {α : Type}

/-- Sorts spans into a table. -/
def ofSpans (spans : List (Span α)) : Table α :=
  ⟨(spans.mergeSort fun a b => a.first ≤ b.first).toArray⟩

/-- The span of `n` among those from `lo` up to, but not including, `hi`. -/
def findIn (t : Table α) (n lo hi : Nat) : Option (Span α) :=
  if _ : lo < hi then
    let mid := (lo + hi) / 2
    match t.spans[mid]? with
    | none => none
    | some s =>
      if n < s.first then findIn t n lo mid
      else if s.last < n then findIn t n (mid + 1) hi
      else some s
  else none
termination_by hi - lo

/-- The span that holds a character. -/
def find? (t : Table α) (c : Char) : Option (Span α) := t.findIn c.toNat 0 t.spans.size

/-- The value of a character. -/
def get? (t : Table α) (c : Char) : Option α := (t.find? c).map Span.value

/-- Whether the table says anything of a character. -/
def mem (t : Table α) (c : Char) : Bool := (t.find? c).isSome

end Table

end Unicode

end Blocklist
