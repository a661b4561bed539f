import Blocklist.Codebook.Books
import Blocklist.Proofs.Codebook.Pieces
/-!
# Codebooks — decoding undoes encoding

What the encoder writes is made of pieces that stand for the bytes of the
text, so every text comes back as it was (`decode_encode`), and so do texts
one after the other (`decode_foldl_encodeInto`), whatever entries the table
has, as long as it leaves the two codes for escapes alone.
-/

namespace Blocklist

namespace Codebook

variable {entries : List (List UInt8)}

/-! ## What the encoder writes -/

theorem spells_run {run : List UInt8} (hne : run ≠ []) (hlength : run.length ≤ longestRun) :
    Spells entries (escapeRun :: (run.length - 1).toUInt8 :: run) run := by
  have hpos : 0 < run.length := List.length_pos_iff.mpr hne
  have hcount : run.length = (run.length - 1).toUInt8.toNat + 1 := by
    rw [Nat.toUInt8, UInt8.toNat_ofNat', longestRun] at *
    omega
  exact (Piece.run (run.length - 1).toUInt8 run hcount).spells

theorem spells_entry {i : Nat} {entry : List UInt8} (hentries : entries.length ≤ 254)
    (hentry : entries[i]? = some entry) : Spells entries [i.toUInt8] entry := by
  obtain ⟨hlt, rfl⟩ := List.getElem?_eq_some_iff.mp hentry
  have hcode : i.toUInt8.toNat = i := UInt8.toNat_ofNat_of_lt' (show i < 256 by omega)
  have hcodeLt : i.toUInt8.toNat < entries.length := by rwa [hcode]
  have hspells := (Piece.entry i.toUInt8 hcodeLt).spells
  simp only [Piece.codes, Piece.bytes, hcode] at hspells
  exact hspells

/-- Bytes that stand for themselves come back as they are. -/
theorem spells_verbatim (bytes : List UInt8) : Spells entries (verbatim bytes) bytes := by
  fun_induction verbatim bytes with
  | case1 => exact Spells.nil
  | case2 b => exact (Piece.byte b).spells
  | case3 a b rest run ih =>
    have hne : run ≠ [] := List.cons_ne_nil a _
    have hlength : run.length ≤ longestRun := List.length_take_le ..
    -- what is left after the run comes back by induction, and the run goes before it
    have hpieces := (spells_run hne hlength).append ih
    rwa [List.take_append_drop] at hpieces

/-- Whatever was pending, the codes stand for it and for the bytes that follow. -/
theorem spells_encodeFrom (hentries : entries.length ≤ 254) (pending bytes : List UInt8) :
    Spells entries (encodeFrom entries pending bytes) (pending ++ bytes) := by
  fun_induction encodeFrom entries pending bytes with
  | case1 pending =>
    rw [List.append_nil]
    exact spells_verbatim pending
  | case2 pending b rest code after hhit ih =>
    obtain ⟨i, entry, hentry, rfl, -, hbytes⟩ := exists_of_hit? hhit
    rw [hbytes]
    exact (spells_verbatim pending).append ((spells_entry hentries hentry).append ih)
  | case3 pending b rest hmiss ih => rwa [List.append_assoc pending] at ih

/-! ## Texts -/

variable {book : Codebook}

theorem spells_encode (h : book.table.length ≤ 254) (text : String) :
    Spells book.entries (book.encode text) (Text.utf8 text) :=
  spells_encodeFrom (by rwa [length_entries]) [] (Text.utf8 text)

/-- **Decoding undoes encoding.** -/
theorem decode_encode (h : book.table.length ≤ 254) (text : String) :
    book.decode (book.encode text) = .ok text :=
  (decode_eq_ok_iff h).mpr (spells_encode h text)

theorem foldl_encodeInto (codes : List UInt8) (texts : List String) :
    texts.foldl book.encodeInto codes = codes ++ texts.flatMap book.encode := by
  induction texts generalizing codes with
  | nil => simp
  | cons text texts ih =>
    rw [List.foldl_cons, ih, encodeInto, List.flatMap_cons, List.append_assoc]

/-- The codes of texts, one after the other, stand for the bytes of one text after the other. -/
theorem spells_flatMap_encode (h : book.table.length ≤ 254) (texts : List String) :
    Spells book.entries (texts.flatMap book.encode) (texts.flatMap Text.utf8) := by
  induction texts with
  | nil => exact Spells.nil
  | cons text texts ih => exact (spells_encode h text).append ih

theorem utf8_join (texts : List String) :
    Text.utf8 (String.join texts) = texts.flatMap Text.utf8 := by
  rw [Text.utf8, String.toList_join, List.flatMap_assoc]
  rfl

/-- **Texts that are encoded into one buffer are decoded as one text**, the one with the other
behind it; a text that is encoded by itself comes back as it was. -/
theorem decode_foldl_encodeInto (h : book.table.length ≤ 254) :
    (∀ texts : List String,
      book.decode (texts.foldl book.encodeInto []) = .ok (String.join texts)) ∧
    ∀ text, book.decode (book.encode text) = .ok text := by
  refine ⟨fun texts => (decode_eq_ok_iff h).mpr ?_, decode_encode h⟩
  rw [foldl_encodeInto, List.nil_append, utf8_join]
  exact spells_flatMap_encode h texts

/-- A book in no order, with an entry twice, an empty one, one outside ASCII, and one that begins
with another. -/
def unsortedBook : Codebook := ⟨"unsorted", ["ad", "", "é.", "ad", "adserver"]⟩

theorem decode_foldl_encodeInto_unsortedBook :
    unsortedBook.table.length ≤ 254 ∧
    unsortedBook.decode (["badé", "", ".server", "adserverÿ"].foldl unsortedBook.encodeInto [])
      = .ok "badé.serveradserverÿ" ∧
    unsortedBook.decode (unsortedBook.encode "adé.x") = .ok "adé.x" := by
  have h : unsortedBook.table.length ≤ 254 := by decide
  refine ⟨h, ?_, (decode_foldl_encodeInto h).2 "adé.x"⟩
  rw [(decode_foldl_encodeInto h).1]
  exact congrArg Except.ok (by decide)

/-- The books in use leave the codes for escapes alone. -/
theorem length_table_le {book : Codebook} (h : book ∈ books) : book.table.length ≤ 254 := by
  simp only [books, List.mem_cons, List.not_mem_nil, or_false] at h
  rcases h with rfl | rfl | rfl | rfl <;> decide +kernel

end Codebook

end Blocklist
