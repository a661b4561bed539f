import Blocklist.Text.Cut
import Blocklist.Text.Utf8
/-!
# Codebooks

Text is stored as byte codes against a table of frequent pieces. A code
below the size of the table stands for its entry; 254 goes before one byte
that stands for itself, and 255 before a count and a run of such bytes.
-/

namespace Blocklist

/-- A table of frequent pieces of text. -/
structure Codebook where
  /-- The name. -/
  name : String
  /-- The entries; the code of an entry is its place. -/
  table : List String
  deriving DecidableEq, Repr

/-- Why codes cannot be read. -/
inductive CodebookError where
  /-- A code that the table has no entry for. -/
  | unknownCode (code : UInt8) (position : Nat)
  /-- The bytes that an escape announces are not all there. -/
  | truncated (position : Nat)
  /-- The bytes make no text. -/
  | invalidUtf8
  deriving DecidableEq, Repr

/-- The wording of an error. -/
def CodebookError.message : CodebookError → String
  | unknownCode code position =>
    "Unknown code " ++ toString code.toNat ++ " at byte " ++ toString position
  | truncated position => "Truncated escape sequence at byte " ++ toString position
  | invalidUtf8 => "Decoded text is not valid UTF-8"

namespace Codebook

/-- The code before one byte that stands for itself. -/
def escapeByte : UInt8 := 254

/-- The code before a run of bytes that stand for themselves. -/
def escapeRun : UInt8 := 255

/-- The longest run. -/
def longestRun : Nat := 256

/-- The entries as bytes. -/
def entries (book : Codebook) : List (List UInt8) := book.table.map Text.utf8

/-! ## Encoding -/

/-- The entries that begin with a byte, each with its code, in the order of the table. -/
def bucket (entries : List (List UInt8)) (first : UInt8) : List (UInt8 × List UInt8) :=
  (entries.zipIdx.filter fun place => place.1.head? == some first).map fun place =>
    (place.2.toUInt8, place.1)

/-- The first entry that `bytes` begin with, among those that begin with the same byte: its code,
and what follows it. -/
def hit? (entries : List (List UInt8)) : (bytes : List UInt8) → Option (UInt8 × List UInt8)
  | [] => none
  | b :: rest => (bucket entries b).findSome? fun place =>
    (Text.dropOpening? place.2 (b :: rest)).map fun after => (place.1, after)

theorem mem_bucket_iff {entries : List (List UInt8)} {first code : UInt8} {entry : List UInt8} :
    (code, entry) ∈ bucket entries first
      ↔ ∃ i : Nat, entries[i]? = some entry ∧ code = i.toUInt8 ∧ entry.head? = some first := by
  simp only [bucket, List.mem_map, List.mem_filter, List.mem_zipIdx_iff_getElem?, beq_iff_eq,
    Prod.mk.injEq]
  constructor
  · rintro ⟨⟨_, i⟩, ⟨hi, hfirst⟩, rfl, rfl⟩
    exact ⟨i, hi, rfl, hfirst⟩
  · rintro ⟨i, hi, rfl, hfirst⟩
    exact ⟨(entry, i), ⟨hi, hfirst⟩, rfl, rfl⟩

/-- An entry that is hit is in the table, and goes before what is left. -/
theorem exists_of_hit? {entries : List (List UInt8)} {bytes rest : List UInt8} {code : UInt8}
    (h : hit? entries bytes = some (code, rest)) :
    ∃ (i : Nat) (entry : List UInt8),
      entries[i]? = some entry ∧ code = i.toUInt8 ∧ entry ≠ [] ∧ bytes = entry ++ rest := by
  cases bytes with
  | nil => simp [hit?] at h
  | cons b bytes =>
    obtain ⟨⟨c, entry⟩, hmem, hfound⟩ := List.exists_of_findSome?_eq_some h
    obtain ⟨after, hafter, hpair⟩ := Option.map_eq_some_iff.mp hfound
    obtain ⟨rfl, rfl⟩ := Prod.mk.inj hpair
    obtain ⟨i, hi, hcode, hfirst⟩ := mem_bucket_iff.mp hmem
    have hne : entry ≠ [] := by
      rintro rfl
      cases hfirst
    exact ⟨i, entry, hi, hcode, hne, Text.eq_append_of_dropOpening? hafter⟩

theorem length_lt_of_hit? {entries : List (List UInt8)} {bytes rest : List UInt8} {code : UInt8}
    (h : hit? entries bytes = some (code, rest)) : rest.length < bytes.length := by
  obtain ⟨-, entry, -, -, hne, rfl⟩ := exists_of_hit? h
  have hpos := List.length_pos_iff.mpr hne
  rw [List.length_append]
  omega

/-- Bytes that stand for themselves, cut into runs; a single byte has a code of its own. -/
def verbatim (bytes : List UInt8) : List UInt8 :=
  match bytes with
  | [] => []
  | [b] => [escapeByte, b]
  | a :: b :: rest =>
    let run := (a :: b :: rest).take longestRun
    escapeRun :: (run.length - 1).toUInt8 :: run ++ verbatim ((a :: b :: rest).drop longestRun)
termination_by bytes.length
decreasing_by
  simp only [List.length_drop, List.length_cons, longestRun]
  omega

/-- Encodes bytes from left to right, taking an entry wherever one fits; `pending` are the bytes
just before for which there was none. -/
def encodeFrom (entries : List (List UInt8)) (pending bytes : List UInt8) : List UInt8 :=
  match bytes with
  | [] => verbatim pending
  | b :: rest =>
    match _h : hit? entries (b :: rest) with
    | some (code, after) => verbatim pending ++ code :: encodeFrom entries [] after
    | none => encodeFrom entries (pending ++ [b]) rest
termination_by bytes.length
decreasing_by
  · exact length_lt_of_hit? _h
  · simp

/-- The codes of a text. -/
def encode (book : Codebook) (text : String) : List UInt8 :=
  encodeFrom book.entries [] (Text.utf8 text)

/-- A buffer of codes with those of one text more. -/
def encodeInto (book : Codebook) (codes : List UInt8) (text : String) : List UInt8 :=
  codes ++ book.encode text

/-! ## Decoding -/

/-- The bytes that codes stand for; the first code is at `position`. -/
def decodeFrom (entries : List (List UInt8)) (position : Nat) (codes : List UInt8) :
    Except CodebookError (List UInt8) :=
  match codes with
  | [] => .ok []
  | code :: rest =>
    if code == escapeByte then
      match rest with
      | [] => .error (.truncated position)
      | b :: rest => do return b :: (← decodeFrom entries (position + 2) rest)
    else if code == escapeRun then
      match rest with
      | [] => .error (.truncated position)
      | n :: rest =>
        let count := n.toNat + 1
        if rest.length < count then .error (.truncated position)
        else do
          return rest.take count
            ++ (← decodeFrom entries (position + 2 + count) (rest.drop count))
    else
      match entries[code.toNat]? with
      | none => .error (.unknownCode code position)
      | some entry => do return entry ++ (← decodeFrom entries (position + 1) rest)
termination_by codes.length
decreasing_by
  all_goals
    simp only [List.length_cons, List.length_drop]
    omega

/-- The text that codes stand for. -/
def decode (book : Codebook) (codes : List UInt8) : Except CodebookError String := do
  let bytes ← decodeFrom book.entries 0 codes
  match Text.ofUtf8? bytes with
  | some text => return text
  | none => throw .invalidUtf8

end Codebook

end Blocklist
