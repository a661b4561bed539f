import Blocklist.Codebook.Basic
/-!
# Codebooks — what codes are made of

Codes are pieces, one after the other: the code of an entry, a byte behind
its escape, or a run behind its escape and its count. Where one piece ends
is only known from the left, so the decoder takes one after the other
(`decodeFrom_pieces`), until none is left or the next is not there
(`exists_pieces`).

Main statement: what a text is decoded from, and where and why decoding
stops, is what the pieces say (`decode_by_pieces`).
-/

namespace Blocklist

namespace Codebook

/-- A piece of codes, for a table with these entries. -/
inductive Piece (entries : List (List UInt8)) where
  /-- The code of an entry. -/
  | entry (code : UInt8) (h : code.toNat < entries.length)
  /-- A byte that stands for itself. -/
  | byte (b : UInt8)
  /-- A run of bytes that stand for themselves, one more than the count says. -/
  | run (n : UInt8) (bytes : List UInt8) (h : bytes.length = n.toNat + 1)

namespace Piece

variable {entries : List (List UInt8)}

/-- The codes of a piece. -/
def codes : Piece entries → List UInt8
  | entry code _ => [code]
  | byte b => [escapeByte, b]
  | run n bytes _ => escapeRun :: n :: bytes

/-- What a piece stands for. -/
def bytes : Piece entries → List UInt8
  | entry code _ => entries[code.toNat]
  | byte b => [b]
  | run _ bytes _ => bytes

theorem length_codes_pos (piece : Piece entries) : 0 < piece.codes.length := by
  cases piece <;> exact Nat.zero_lt_succ _

end Piece

variable {entries : List (List UInt8)} {codes out rest : List UInt8} {position : Nat}

/-- Codes that split into pieces. -/
def Splits (entries : List (List UInt8)) (codes : List UInt8) : Prop :=
  ∃ pieces : List (Piece entries), pieces.flatMap Piece.codes = codes

/-- Codes that split into pieces which stand for these bytes. -/
def Spells (entries : List (List UInt8)) (codes out : List UInt8) : Prop :=
  ∃ pieces : List (Piece entries),
    pieces.flatMap Piece.codes = codes ∧ pieces.flatMap Piece.bytes = out

theorem Spells.nil : Spells entries [] [] := ⟨[], rfl, rfl⟩

theorem Piece.spells (piece : Piece entries) : Spells entries piece.codes piece.bytes :=
  ⟨[piece], List.append_nil _, List.append_nil _⟩

theorem Spells.append {codes' out' : List UInt8} (h : Spells entries codes out)
    (h' : Spells entries codes' out') : Spells entries (codes ++ codes') (out ++ out') := by
  obtain ⟨pieces, rfl, rfl⟩ := h
  obtain ⟨pieces', rfl, rfl⟩ := h'
  exact ⟨pieces ++ pieces', List.flatMap_append, List.flatMap_append⟩

/-- A code that is not in the table, and no escape. -/
def IsUnknown (entries : List (List UInt8)) (code : UInt8) : Prop :=
  entries.length ≤ code.toNat ∧ code.toNat ≤ 253

/-- An escape whose bytes are not all there. -/
inductive IsCutShort : (codes : List UInt8) → Prop where
  /-- No byte is left. -/
  | byte : IsCutShort [escapeByte]
  /-- No count is left. -/
  | count : IsCutShort [escapeRun]
  /-- Fewer bytes are left than the count says. -/
  | run {n : UInt8} {rest : List UInt8} (h : rest.length < n.toNat + 1) :
    IsCutShort (escapeRun :: n :: rest)

/-! ## Decoding, piece by piece -/

/-- A code below 254 is no escape. -/
theorem not_escape {code : UInt8} (h : code.toNat ≤ 253) :
    ¬ (code == escapeByte) ∧ ¬ (code == escapeRun) := by
  rw [beq_iff_eq, beq_iff_eq, ← UInt8.toNat_inj, ← UInt8.toNat_inj]
  show code.toNat ≠ 254 ∧ code.toNat ≠ 255
  omega

@[simp] theorem decodeFrom_nil (entries : List (List UInt8)) (position : Nat) :
    decodeFrom entries position [] = .ok [] := by
  rw [decodeFrom]

/-- **A piece is taken for what it stands for**, whatever follows it. -/
theorem decodeFrom_piece (hentries : entries.length ≤ 254) (position : Nat)
    (piece : Piece entries) (rest : List UInt8) :
    decodeFrom entries position (piece.codes ++ rest)
      = (piece.bytes ++ ·) <$> decodeFrom entries (position + piece.codes.length) rest := by
  cases piece with
  | entry code h =>
    have hle : code.toNat ≤ 253 := by omega
    obtain ⟨hbyte, hrun⟩ := not_escape hle
    rw [Piece.codes, List.singleton_append, decodeFrom.eq_def]
    dsimp only
    rw [if_neg hbyte, if_neg hrun, List.getElem?_eq_getElem h]
    rfl
  | byte b =>
    rw [Piece.codes, List.cons_append, List.singleton_append, decodeFrom.eq_def]
    rfl
  | run n bytes h =>
    rw [Piece.codes, List.cons_append, List.cons_append, decodeFrom.eq_def]
    dsimp only
    rw [if_neg (by decide), if_pos (by decide), List.length_append, if_neg (by omega),
      List.drop_left' h, List.take_left' h, List.length_cons, List.length_cons, h,
      Nat.add_assoc position, Nat.add_comm 2]
    rfl

/-- **Pieces are taken for what they stand for**, one after the other. -/
theorem decodeFrom_pieces (hentries : entries.length ≤ 254) (position : Nat)
    (pieces : List (Piece entries)) (rest : List UInt8) :
    decodeFrom entries position (pieces.flatMap Piece.codes ++ rest)
      = (pieces.flatMap Piece.bytes ++ ·)
        <$> decodeFrom entries (position + (pieces.flatMap Piece.codes).length) rest := by
  induction pieces generalizing position with
  | nil =>
    simp only [List.flatMap_nil, List.nil_append, List.length_nil, Nat.add_zero]
    exact (id_map _).symm
  | cons piece pieces ih =>
    rw [List.flatMap_cons, List.append_assoc, decodeFrom_piece hentries, ih, List.length_append,
      Nat.add_assoc, List.flatMap_cons, ← comp_map]
    congr 1
    funext out
    exact (List.append_assoc ..).symm

/-! ## Where there is no piece -/

theorem decodeFrom_unknown {code : UInt8} (h : IsUnknown entries code) (position : Nat)
    (rest : List UInt8) :
    decodeFrom entries position (code :: rest) = .error (.unknownCode code position) := by
  obtain ⟨hlength, hle⟩ := h
  obtain ⟨hbyte, hrun⟩ := not_escape hle
  rw [decodeFrom.eq_def]
  dsimp only
  rw [if_neg hbyte, if_neg hrun, List.getElem?_eq_none hlength]

theorem decodeFrom_cutShort (h : IsCutShort codes) (position : Nat) :
    decodeFrom entries position codes = .error (.truncated position) := by
  cases h with
  | byte => rw [decodeFrom.eq_def]; rfl
  | count => rw [decodeFrom.eq_def]; rfl
  | run h =>
    rw [decodeFrom.eq_def]
    dsimp only
    rw [if_neg (by decide), if_pos (by decide), if_pos h]

/-- Codes begin with a piece, where there are any and nothing is wrong with the first. -/
theorem piece_or_stop (entries : List (List UInt8)) (codes : List UInt8) :
    codes = [] ∨ (∃ (piece : Piece entries) (rest : List UInt8), codes = piece.codes ++ rest)
      ∨ (∃ code rest, codes = code :: rest ∧ IsUnknown entries code) ∨ IsCutShort codes := by
  cases codes with
  | nil => exact .inl rfl
  | cons code rest =>
    refine .inr ?_
    by_cases hbyte : code = escapeByte
    · subst hbyte
      cases rest with
      | nil => exact .inr (.inr .byte)
      | cons b rest => exact .inl ⟨.byte b, rest, rfl⟩
    by_cases hrun : code = escapeRun
    · subst hrun
      cases rest with
      | nil => exact .inr (.inr .count)
      | cons n rest =>
        by_cases hshort : rest.length < n.toNat + 1
        · exact .inr (.inr (.run hshort))
        · have hlength : (rest.take (n.toNat + 1)).length = n.toNat + 1 := by
            rw [List.length_take, Nat.min_eq_left (Nat.not_lt.mp hshort)]
          refine .inl ⟨.run n _ hlength, rest.drop (n.toNat + 1), ?_⟩
          rw [Piece.codes, List.cons_append, List.cons_append, List.take_append_drop]
    by_cases hentry : code.toNat < entries.length
    · exact .inl ⟨.entry code hentry, rest, rfl⟩
    · refine .inr (.inl ⟨code, rest, rfl, Nat.not_lt.mp hentry, ?_⟩)
      have hlt := code.toNat_lt
      have hbyte : code.toNat ≠ 254 := fun h => hbyte (UInt8.toNat_inj.mp h)
      have hrun : code.toNat ≠ 255 := fun h => hrun (UInt8.toNat_inj.mp h)
      omega

/-- **All codes are pieces up to where there is none**: at their end, at an unknown code, or at an
escape that is cut short. -/
theorem exists_pieces (entries : List (List UInt8)) (codes : List UInt8) :
    ∃ (pieces : List (Piece entries)) (rest : List UInt8),
      codes = pieces.flatMap Piece.codes ++ rest
      ∧ (rest = [] ∨ (∃ code tail, rest = code :: tail ∧ IsUnknown entries code)
        ∨ IsCutShort rest) := by
  -- on the codes that are left, as each piece takes one at least
  induction hlength : codes.length using Nat.strongRecOn generalizing codes with
  | ind length ih =>
    subst hlength
    rcases piece_or_stop entries codes with rfl | ⟨piece, rest, rfl⟩ | hstop
    · exact ⟨[], [], rfl, .inl rfl⟩
    · have hpos := piece.length_codes_pos
      have hshorter : rest.length < (piece.codes ++ rest).length := by
        rw [List.length_append]
        omega
      obtain ⟨pieces, tail, rfl, hstop⟩ := ih rest.length hshorter rest rfl
      refine ⟨piece :: pieces, tail, ?_, hstop⟩
      rw [List.flatMap_cons, List.append_assoc]
    · exact ⟨[], codes, rfl, .inr hstop⟩

/-! ## What decoding comes to -/

/-- Pieces, and then a code that is unknown. -/
structure IsUnknownAt (entries : List (List UInt8)) (codes : List UInt8) (code : UInt8)
    (position : Nat) : Prop where
  /-- What is before the code splits into pieces. -/
  splits : Splits entries (codes.take position)
  /-- There is the code. -/
  next : codes[position]? = some code
  /-- It is not in the table, and no escape. -/
  unknown : IsUnknown entries code

/-- Pieces, and then an escape that is cut short. -/
structure IsCutShortAt (entries : List (List UInt8)) (codes : List UInt8) (position : Nat) :
    Prop where
  /-- What is before the escape splits into pieces. -/
  splits : Splits entries (codes.take position)
  /-- The escape is cut short. -/
  next : IsCutShort (codes.drop position)

/-- **Codes split into pieces to their end, or up to a place where there is none.** -/
theorem spells_or_stops (entries : List (List UInt8)) (codes : List UInt8) :
    (∃ out, Spells entries codes out)
      ∨ (∃ code position, IsUnknownAt entries codes code position)
      ∨ ∃ position, IsCutShortAt entries codes position := by
  obtain ⟨pieces, rest, rfl, rfl | ⟨code, tail, rfl, hunknown⟩ | hshort⟩ :=
    exists_pieces entries codes
  · exact .inl ⟨_, pieces, (List.append_nil _).symm, rfl⟩
  · refine .inr (.inl ⟨code, (pieces.flatMap Piece.codes).length, ?_, ?_, hunknown⟩)
    · exact ⟨pieces, List.take_left.symm⟩
    · rw [List.getElem?_append_right (Nat.le_refl _), Nat.sub_self]
      rfl
  · refine .inr (.inr ⟨(pieces.flatMap Piece.codes).length, ?_, ?_⟩)
    · exact ⟨pieces, List.take_left.symm⟩
    · rwa [List.drop_left]

theorem decodeFrom_of_spells (hentries : entries.length ≤ 254) (h : Spells entries codes out) :
    decodeFrom entries 0 codes = .ok out := by
  obtain ⟨pieces, rfl, rfl⟩ := h
  have hpieces := decodeFrom_pieces hentries 0 pieces []
  rw [List.append_nil, decodeFrom_nil] at hpieces
  rw [hpieces]
  exact congrArg Except.ok (List.append_nil _)

/-- What comes behind pieces is reached. -/
theorem decodeFrom_of_splits (hentries : entries.length ≤ 254)
    (h : Splits entries (codes.take position)) (hle : position ≤ codes.length)
    {reason : CodebookError}
    (hstop : decodeFrom entries position (codes.drop position) = .error reason) :
    decodeFrom entries 0 codes = .error reason := by
  obtain ⟨pieces, hpieces⟩ := h
  have hlength : (pieces.flatMap Piece.codes).length = position := by
    rw [hpieces, List.length_take, Nat.min_eq_left hle]
  have hdecode := decodeFrom_pieces hentries 0 pieces (codes.drop position)
  rw [hlength, hpieces, List.take_append_drop, Nat.zero_add, hstop] at hdecode
  exact hdecode

theorem decodeFrom_of_isUnknownAt {code : UInt8} (hentries : entries.length ≤ 254)
    (h : IsUnknownAt entries codes code position) :
    decodeFrom entries 0 codes = .error (.unknownCode code position) := by
  obtain ⟨hlt, hcode⟩ := List.getElem?_eq_some_iff.mp h.next
  refine decodeFrom_of_splits hentries h.splits (Nat.le_of_lt hlt) ?_
  rw [List.drop_eq_getElem_cons hlt, hcode, decodeFrom_unknown h.unknown]

theorem decodeFrom_of_isCutShortAt (hentries : entries.length ≤ 254)
    (h : IsCutShortAt entries codes position) :
    decodeFrom entries 0 codes = .error (.truncated position) := by
  have hle : position ≤ codes.length := by
    refine Nat.le_of_not_lt fun hlt => ?_
    have hnext := h.next
    rw [List.drop_eq_nil_of_le (Nat.le_of_lt hlt)] at hnext
    cases hnext
  exact decodeFrom_of_splits hentries h.splits hle (decodeFrom_cutShort h.next position)

/-! ## Texts -/

variable {book : Codebook}

theorem length_entries (book : Codebook) : book.entries.length = book.table.length :=
  List.length_map _

theorem decode_of_error {reason : CodebookError}
    (h : decodeFrom book.entries 0 codes = .error reason) :
    book.decode codes = .error reason := by
  rw [decode, h]
  rfl

theorem decode_of_ofUtf8? {text : String} (h : decodeFrom book.entries 0 codes = .ok out)
    (htext : Text.ofUtf8? out = some text) : book.decode codes = .ok text := by
  rw [decode, h]
  simp only [bind, Except.bind, htext]
  rfl

theorem decode_of_ofUtf8?_none (h : decodeFrom book.entries 0 codes = .ok out)
    (htext : Text.ofUtf8? out = none) : book.decode codes = .error .invalidUtf8 := by
  rw [decode, h]
  simp only [bind, Except.bind, htext]
  rfl

/-- What codes come to, by their pieces. -/
inductive Outcome (entries : List (List UInt8)) (codes : List UInt8) :
    (result : Except CodebookError String) → Prop where
  /-- They stand for the bytes of a text. -/
  | text {text : String} (h : Spells entries codes (Text.utf8 text)) :
    Outcome entries codes (.ok text)
  /-- There is a code that is unknown. -/
  | unknown {code : UInt8} {position : Nat} (h : IsUnknownAt entries codes code position) :
    Outcome entries codes (.error (.unknownCode code position))
  /-- There is an escape that is cut short. -/
  | cutShort {position : Nat} (h : IsCutShortAt entries codes position) :
    Outcome entries codes (.error (.truncated position))
  /-- They stand for bytes that no text has. -/
  | noText {out : List UInt8} (h : Spells entries codes out)
    (hnone : ∀ text, Text.utf8 text ≠ out) :
    Outcome entries codes (.error .invalidUtf8)

theorem exists_outcome (entries : List (List UInt8)) (codes : List UInt8) :
    ∃ result, Outcome entries codes result := by
  rcases spells_or_stops entries codes with
    ⟨out, hspells⟩ | ⟨code, position, hunknown⟩ | ⟨position, hshort⟩
  · by_cases htext : ∃ text, Text.utf8 text = out
    · obtain ⟨text, rfl⟩ := htext
      exact ⟨_, .text hspells⟩
    · exact ⟨_, .noText hspells (not_exists.mp htext)⟩
  · exact ⟨_, .unknown hunknown⟩
  · exact ⟨_, .cutShort hshort⟩

theorem decode_of_outcome (h : book.table.length ≤ 254) {result : Except CodebookError String}
    (houtcome : Outcome book.entries codes result) : book.decode codes = result := by
  have hentries : book.entries.length ≤ 254 := by rwa [length_entries]
  cases houtcome with
  | text hspells =>
    exact decode_of_ofUtf8? (decodeFrom_of_spells hentries hspells) (Text.ofUtf8?_utf8 _)
  | unknown hunknown => exact decode_of_error (decodeFrom_of_isUnknownAt hentries hunknown)
  | cutShort hshort => exact decode_of_error (decodeFrom_of_isCutShortAt hentries hshort)
  | noText hspells hnone =>
    refine decode_of_ofUtf8?_none (decodeFrom_of_spells hentries hspells) ?_
    exact Option.eq_none_iff_forall_ne_some.mpr fun text htext =>
      hnone text (Text.ofUtf8?_eq_some_iff.mp htext)

/-- **Decoding comes to what the codes come to.** -/
theorem decode_eq_iff (h : book.table.length ≤ 254) {result : Except CodebookError String} :
    book.decode codes = result ↔ Outcome book.entries codes result := by
  refine ⟨fun hdecode => ?_, decode_of_outcome h⟩
  obtain ⟨other, houtcome⟩ := exists_outcome book.entries codes
  rwa [← hdecode, decode_of_outcome h houtcome]

/-- **A text is decoded from the codes that stand for its bytes.** -/
theorem decode_eq_ok_iff (h : book.table.length ≤ 254) {text : String} :
    book.decode codes = .ok text ↔ Spells book.entries codes (Text.utf8 text) := by
  rw [decode_eq_iff h]
  refine ⟨fun houtcome => ?_, .text⟩
  cases houtcome with
  | text hspells => exact hspells

/-- **What decoding comes to is what the pieces say.** A text is decoded from the codes that split
into pieces which stand for its bytes; decoding stops at the first code that is unknown, and at the
first escape that is cut short, with their places; and in the case that is left, the pieces stand
for the bytes of no text. -/
theorem decode_by_pieces (book : Codebook) (h : book.table.length ≤ 254) (codes : List UInt8) :
    (∀ text, book.decode codes = .ok text ↔ Spells book.entries codes (Text.utf8 text))
    ∧ (∀ code position, book.decode codes = .error (.unknownCode code position)
      ↔ IsUnknownAt book.entries codes code position)
    ∧ (∀ position, book.decode codes = .error (.truncated position)
      ↔ IsCutShortAt book.entries codes position)
    ∧ (book.decode codes = .error .invalidUtf8
      ↔ ∃ out, Spells book.entries codes out ∧ ∀ text, Text.utf8 text ≠ out)
    ∧ (book.decode codes = .error .invalidUtf8
      ↔ (∀ text, ¬ Spells book.entries codes (Text.utf8 text))
        ∧ (∀ code position, ¬ IsUnknownAt book.entries codes code position)
        ∧ ∀ position, ¬ IsCutShortAt book.entries codes position) := by
  have hunknown : ∀ code position, book.decode codes = .error (.unknownCode code position)
      ↔ IsUnknownAt book.entries codes code position := by
    intro code position
    rw [decode_eq_iff h]
    refine ⟨fun houtcome => ?_, .unknown⟩
    cases houtcome with
    | unknown hat => exact hat
  have hshort : ∀ position, book.decode codes = .error (.truncated position)
      ↔ IsCutShortAt book.entries codes position := by
    intro position
    rw [decode_eq_iff h]
    refine ⟨fun houtcome => ?_, .cutShort⟩
    cases houtcome with
    | cutShort hat => exact hat
  refine ⟨fun text => decode_eq_ok_iff h, hunknown, hshort, ?_, ?_⟩
  · rw [decode_eq_iff h]
    constructor
    · intro houtcome
      cases houtcome with
      | noText hspells hnone => exact ⟨_, hspells, hnone⟩
    · rintro ⟨out, hspells, hnone⟩
      exact .noText hspells hnone
  · simp only [← decode_eq_ok_iff h, ← hunknown, ← hshort]
    constructor
    · intro hinvalid
      simp [hinvalid]
    · -- each result but this one is left out
      rintro ⟨htext, hcode, hescape⟩
      cases hresult : book.decode codes with
      | ok text => exact absurd hresult (htext text)
      | error reason =>
        cases reason with
        | unknownCode code position => exact absurd hresult (hcode code position)
        | truncated position => exact absurd hresult (hescape position)
        | invalidUtf8 => rfl

/-- A book of two entries. -/
def pairBook : Codebook := ⟨"pair", ["ad", "."]⟩

theorem decode_by_pieces_pairBook :
    pairBook.table.length ≤ 254
    ∧ pairBook.decode [0, 254, 0x62, 255, 1, 0x63, 0x64, 1] = .ok "adbcd."
    ∧ pairBook.decode [0, 2, 254] = .error (.unknownCode 2 1)
    ∧ pairBook.decode [254, 0x62, 255, 2, 0x63] = .error (.truncated 2) := by
  have h : pairBook.table.length ≤ 254 := by decide
  refine ⟨h, ?_, ?_, ?_⟩
  · refine ((decode_by_pieces pairBook h _).1 "adbcd.").mpr ⟨[.entry 0 (by decide), .byte 0x62,
      .run 1 [0x63, 0x64] rfl, .entry 1 (by decide)], rfl, by decide⟩
  · exact ((decode_by_pieces pairBook h _).2.1 2 1).mpr
      ⟨⟨[.entry 0 (by decide)], rfl⟩, rfl, by decide, by decide⟩
  · exact ((decode_by_pieces pairBook h _).2.2.1 2).mpr
      ⟨⟨[.byte 0x62], rfl⟩, .run (by decide)⟩

end Codebook

end Blocklist
