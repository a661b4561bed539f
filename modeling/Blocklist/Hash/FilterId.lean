/-!
# Hashes — filter ids

A filter's id is a rolling hash over its mask and its text fields, so two
filters with the same content have the same id.
-/

namespace Blocklist

namespace FilterId

/-- The state before anything is absorbed. -/
def seed : UInt32 := 5408 * 33

/-- The state of a filter with this mask and no text yet. -/
def start (mask : UInt32) : UInt32 := seed ^^^ mask

/-- The state after one more character. -/
def step (state : UInt32) (c : Char) : UInt32 := state * 33 ^^^ c.val

/-- The state after a field; an absent field leaves it as it is. -/
def absorb (state : UInt32) : Option String → UInt32
  | none => state
  | some text => text.toList.foldl step state

/-- The id of a filter: its mask, then its fields in order. -/
def ofFields (mask : UInt32) (fields : List (Option String)) : UInt32 :=
  fields.foldl absorb (start mask)

end FilterId

end Blocklist
