import Blocklist.LittleEndian
import Blocklist.Snapshot.Error
/-!
# Snapshots — reading bytes

A cursor is what is left of a section, with the place in the file at which
that begins. It is never moved past the end.
-/

namespace Blocklist

/-- What is left to read. -/
structure Cursor where
  /-- Where in the file the next byte is. -/
  offset : Nat
  /-- The bytes from there on. -/
  rest : List UInt8
  deriving DecidableEq, Repr

/-- A reading of bytes, which moves the cursor or fails. -/
abbrev Reader := StateT Cursor (Except SnapshotError)

namespace Reader

/-- Where the next byte is. -/
def here : Reader Nat := do return (← get).offset

/-- How many bytes are left. -/
def remaining : Reader Nat := do return (← get).rest.length

/-- The next byte. -/
def byte : Reader UInt8 := do
  let c ← get
  match c.rest with
  | [] => throw (.truncated c.offset)
  | b :: rest =>
    set (Cursor.mk (c.offset + 1) rest)
    return b

/-- The next `n` bytes. -/
def bytes (n : Nat) : Reader (List UInt8) := do
  let c ← get
  if c.rest.length < n then throw (.truncated c.offset)
  set (Cursor.mk (c.offset + n) (c.rest.drop n))
  return c.rest.take n

/-- A number in the next four bytes. -/
def word : Reader UInt32 := do return LittleEndian.wordAt 0 (← bytes 4)

/-- What `read` reads, `n` times over. -/
def repeated {α : Type} (read : Reader α) : (n : Nat) → Reader (List α)
  | 0 => return []
  | n + 1 => do
    let first ← read
    return first :: (← repeated read n)

/-- Fails unless every byte has been read. -/
def finish : Reader Unit := do
  let c ← get
  if !c.rest.isEmpty then throw (.invalidRecord c.offset .trailingBytes)

end Reader

end Blocklist
