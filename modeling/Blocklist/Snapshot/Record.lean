import Blocklist.Codebook.Books
import Blocklist.Filter.Cosmetic
import Blocklist.Filter.Network
import Blocklist.Index.Basic
import Blocklist.Snapshot.Varint
/-!
# Snapshots — records

Filters and buckets as bytes. A filter is its mask, a byte that says which
of its optional parts follow, and those parts as text in a codebook.
-/

namespace Blocklist

/-! ## Parts -/

namespace NetworkFilter

/-- The codebook of a filter's value: policies have a book of their own. -/
def valueBook (mask : NetworkMask) : Codebook := if mask.has .csp then .csp else .raw

/-- The pattern, where there is one. -/
def pattern? (f : NetworkFilter) : Option String :=
  if f.pattern.isEmpty then none else some f.pattern

end NetworkFilter

/-- A byte with a bit for each part that is there, lowest first. -/
def partBits : List Bool → UInt8
  | [] => 0
  | present :: parts => (if present then (1 : UInt8) else 0) ||| (partBits parts <<< 1)

/-- Whether a part is there. -/
def hasPart (present : UInt8) (part : UInt8) : Bool := present &&& ((1 : UInt8) <<< part) != 0

/-! ## Writing -/

namespace Record

/-- A text: the number of its codes, and the codes. -/
def text (book : Codebook) (s : String) : List UInt8 :=
  let codes := book.encode s
  varint codes.length.toUInt32.toNat ++ codes

/-- A text, where there is one. -/
def text? (book : Codebook) : Option String → List UInt8
  | none => []
  | some s => text book s

/-- A network filter. -/
def network (f : NetworkFilter) : List UInt8 :=
  let domains := f.domains.map HostList.text
  let denyallow := f.denyallow.map HostList.text
  LittleEndian.ofWord f.mask.word
    ++ [partBits [f.pattern?.isSome, domains.isSome, denyallow.isSome, f.value.isSome,
        f.rawLine.isSome]]
    ++ text? .pattern f.pattern?
    ++ text? .raw domains
    ++ text? .raw denyallow
    ++ text? (NetworkFilter.valueBook f.mask) f.value
    ++ text? .raw f.rawLine

/-- A cosmetic filter. -/
def cosmetic (f : CosmeticFilter) : List UInt8 :=
  let hostnames := f.hostnames.map HostList.text
  [f.mask.word, partBits [hostnames.isSome, f.rawLine.isSome]]
    ++ text .selector f.selector
    ++ text? .raw hostnames
    ++ text? .raw f.rawLine

/-- Positions in an index. -/
def postings (positions : List Nat) : List UInt8 := postingBytes (positions.map (·.toUInt32))

/-- A bucket. -/
def bucket (b : Bucket) : List UInt8 := LittleEndian.ofWord b.token ++ postings b.positions

/-- The number of some records, and the records. -/
def list {α : Type} (write : α → List UInt8) (items : List α) : List UInt8 :=
  varint items.length.toUInt32.toNat ++ items.flatMap write

/-- An index: its buckets, and the positions that belong to no token. -/
def index (i : TokenIndex) : List UInt8 := list bucket i.buckets ++ postings i.catchAll

end Record

/-! ## Reading -/

namespace Reader

/-- A text. -/
def text (book : Codebook) : Reader String := do
  let length ← varint
  let offset ← here
  match book.decode (← bytes length) with
  | .ok s => return s
  | .error reason => throw (.codebook offset reason)

/-- A text, where there is one. -/
def text? (book : Codebook) (present : Bool) : Reader (Option String) :=
  if present then some <$> text book else return none

/-- A byte of which the lowest `count` bits alone may be set. -/
def bits (count : UInt8) (fault : RecordFault) : Reader UInt8 := do
  let offset ← here
  let set ← byte
  if set >>> count != 0 then throw (.invalidRecord offset fault)
  return set

/-- A network filter. -/
def network : Reader NetworkFilter := do
  let mask : NetworkMask := ⟨← word⟩
  let present ← bits 5 .networkFields
  let pattern ← text? .pattern (hasPart present 0)
  let domains ← text? .raw (hasPart present 1)
  let denyallow ← text? .raw (hasPart present 2)
  let value ← text? (NetworkFilter.valueBook mask) (hasPart present 3)
  let rawLine ← text? .raw (hasPart present 4)
  return {
    mask := mask
    pattern := pattern.getD ""
    domains := domains.map HostList.mk
    denyallow := denyallow.map HostList.mk
    value := value
    rawLine := rawLine }

/-- A cosmetic filter. -/
def cosmetic : Reader CosmeticFilter := do
  let mask ← bits 3 .cosmeticMask
  let present ← bits 2 .cosmeticFields
  let selector ← text .selector
  let hostnames ← text? .raw (hasPart present 0)
  let rawLine ← text? .raw (hasPart present 1)
  return {
    mask := ⟨mask⟩
    selector := selector
    hostnames := hostnames.map HostList.mk
    rawLine := rawLine }

/-- Buckets with positions below `limit`, for tokens that differ from each other and from those of
the buckets `seen`. -/
def bucketsFrom (limit : Nat) : (seen : List Bucket) → (n : Nat) → Reader (List Bucket)
  | _, 0 => return []
  | seen, n + 1 => do
    let offset ← here
    let token ← word
    let bucket : Bucket := ⟨token, ← postings limit⟩
    if seen.any (·.token == token) then throw (.invalidRecord offset .duplicateBucket)
    return bucket :: (← bucketsFrom limit (bucket :: seen) n)

/-- An index with positions below `limit`. -/
def index (limit : Nat) : Reader TokenIndex := do
  let buckets ← bucketsFrom limit [] (← count)
  let catchAll ← postings limit
  finish
  return ⟨buckets.mergeSort fun a b => a.token ≤ b.token, catchAll⟩

/-- Records up to the end, with their number in front. -/
def list {α : Type} (read : Reader α) : Reader (List α) := do
  let items ← repeated read (← count)
  finish
  return items

end Reader

end Blocklist
