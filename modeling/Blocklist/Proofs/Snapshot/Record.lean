import Blocklist.Proofs.Codebook.RoundTrip
import Blocklist.Proofs.Filter.Mask
import Blocklist.Proofs.Snapshot.Reads
import Blocklist.Snapshot.Record
/-!
# Snapshots — records as they were written

Filters and indexes are read from the bytes that were written of them, as
long as those are fewer than 2^32 (`reads_network`, `reads_cosmetic`,
`readsAll_index`). An index has to be filed as it should be, and a cosmetic
filter may have known options only.
-/

namespace Blocklist

namespace Reader

/-! ## Parts -/

/-- **A text is read as it was written.** -/
theorem reads_text {book : Codebook} (hbook : book ∈ Codebook.books) {s : String}
    (h : (Record.text book s).length < 2 ^ 32) : Reads (text book) (Record.text book s) s := by
  rw [Record.text, List.length_append] at h
  rw [Record.text, toNat_toUInt32_of_lt (by omega)]
  unfold text
  refine (reads_varint (by omega)).bind (Reads.here_bind fun offset => ?_)
  refine (reads_bytes (book.encode s)).bind_nil ?_
  rw [Codebook.decode_encode (Codebook.length_table_le hbook)]
  exact Reads.pure s

/-- A text that may be missing is read where the bits say that it is there. -/
theorem reads_text? {book : Codebook} (hbook : book ∈ Codebook.books) {s : Option String}
    (h : (Record.text? book s).length < 2 ^ 32) :
    Reads (text? book s.isSome) (Record.text? book s) s := by
  cases s with
  | none => exact Reads.pure none
  | some s => exact (reads_text hbook h).map some

theorem reads_bits {set n : UInt8} (fault : RecordFault) (h : set >>> n = 0) :
    Reads (bits n fault) [set] set := by
  unfold bits
  refine Reads.here_bind fun offset => Reads.byte_bind ?_
  rw [if_neg (by rw [h]; decide)]
  exact Reads.pure set

theorem Reads.bits_bind {β : Type} {next : UInt8 → Reader β} {set n : UInt8} {more : List UInt8}
    {result : β} (fault : RecordFault) (h : set >>> n = 0) (hnext : Reads (next set) more result) :
    Reads (bits n fault >>= next) (set :: more) result :=
  (reads_bits fault h).bind hnext

theorem partBits_two (a b : Bool) :
    partBits [a, b] >>> 2 = 0 ∧ hasPart (partBits [a, b]) 0 = a
      ∧ hasPart (partBits [a, b]) 1 = b := by
  revert a b
  decide

theorem partBits_five (a b c d e : Bool) :
    partBits [a, b, c, d, e] >>> 5 = 0 ∧ hasPart (partBits [a, b, c, d, e]) 0 = a
      ∧ hasPart (partBits [a, b, c, d, e]) 1 = b ∧ hasPart (partBits [a, b, c, d, e]) 2 = c
      ∧ hasPart (partBits [a, b, c, d, e]) 3 = d ∧ hasPart (partBits [a, b, c, d, e]) 4 = e := by
  revert a b c d e
  decide

/-! ## Filters -/

theorem pattern_mem_books : Codebook.pattern ∈ Codebook.books :=
  List.mem_cons_of_mem _ (List.mem_cons_self ..)

theorem raw_mem_books : Codebook.raw ∈ Codebook.books :=
  List.mem_cons_of_mem _ (List.mem_cons_of_mem _ (List.mem_cons_self ..))

theorem selector_mem_books : Codebook.selector ∈ Codebook.books :=
  List.mem_of_getLast? rfl

theorem valueBook_mem_books (mask : NetworkMask) :
    NetworkFilter.valueBook mask ∈ Codebook.books := by
  unfold NetworkFilter.valueBook
  split
  · exact List.mem_cons_self ..
  · exact raw_mem_books

theorem getD_pattern? (f : NetworkFilter) : f.pattern?.getD "" = f.pattern := by
  unfold NetworkFilter.pattern?
  split
  · next h => exact (String.isEmpty_iff.mp h).symm
  · rfl

theorem map_mk_map_text (hosts : Option HostList) :
    (hosts.map HostList.text).map HostList.mk = hosts := by
  cases hosts <;> rfl

/-- **A network filter is read as it was written.** -/
theorem reads_network (f : NetworkFilter) (h : (Record.network f).length < 2 ^ 32) :
    Reads network (Record.network f) f := by
  obtain ⟨hbits, hpattern, hdomains, hdenyallow, hvalue, hrawLine⟩ :=
    partBits_five f.pattern?.isSome (f.domains.map HostList.text).isSome
      (f.denyallow.map HostList.text).isSome f.value.isSome f.rawLine.isSome
  simp only [Record.network, List.length_append] at h
  simp only [Record.network, List.append_assoc, List.cons_append, List.nil_append]
  unfold network
  refine (reads_word f.mask.word).bind (Reads.bits_bind .networkFields hbits ?_)
  rw [hpattern, hdomains, hdenyallow, hvalue, hrawLine]
  refine (reads_text? pattern_mem_books (by omega)).bind ?_
  refine (reads_text? raw_mem_books (by omega)).bind ?_
  refine (reads_text? raw_mem_books (by omega)).bind ?_
  refine (reads_text? (valueBook_mem_books f.mask) (by omega)).bind ?_
  refine (reads_text? raw_mem_books (by omega)).bind_nil ?_
  rw [getD_pattern?, map_mk_map_text, map_mk_map_text]
  exact Reads.pure f

/-- **A cosmetic filter is read as it was written.** -/
theorem reads_cosmetic (f : CosmeticFilter) (hmask : f.mask.IsKnown)
    (h : (Record.cosmetic f).length < 2 ^ 32) : Reads cosmetic (Record.cosmetic f) f := by
  obtain ⟨hbits, hhostnames, hrawLine⟩ :=
    partBits_two (f.hostnames.map HostList.text).isSome f.rawLine.isSome
  simp only [Record.cosmetic, List.length_append] at h
  simp only [Record.cosmetic, List.append_assoc, List.cons_append, List.nil_append]
  unfold cosmetic
  refine Reads.bits_bind .cosmeticMask hmask (Reads.bits_bind .cosmeticFields hbits ?_)
  rw [hhostnames, hrawLine]
  refine (reads_text selector_mem_books (by omega)).bind ?_
  refine (reads_text? raw_mem_books (by omega)).bind ?_
  refine (reads_text? raw_mem_books (by omega)).bind_nil ?_
  rw [map_mk_map_text]
  exact Reads.pure f

/-! ## Indexes -/

/-- **A row of positions in an index is read as it was written**, where it is short enough. -/
theorem reads_row {limit : Nat} (hlimit : limit ≤ 2 ^ 32) {positions : List Nat}
    (hrow : IsRow limit positions) (h : (Record.postings positions).length < 2 ^ 32) :
    Reads (postings limit) (Record.postings positions) positions := by
  have hsteps := length_le_length_stepBytes 0 (positions.map (·.toUInt32))
  rw [List.length_map] at hsteps
  rw [Record.postings, postingBytes, List.length_append] at h
  exact reads_postings (fun p hp => Nat.lt_of_lt_of_le (hrow.below p hp) hlimit) hrow (by omega)

/-- Buckets are read as they were written, where every token is a new one. -/
theorem reads_bucketsFrom {limit : Nat} (hlimit : limit ≤ 2 ^ 32) {seen buckets : List Bucket}
    (hrows : ∀ b ∈ buckets, IsRow limit b.positions)
    (htokens : buckets.Pairwise (·.token ≠ ·.token))
    (hseen : ∀ b ∈ buckets, ∀ c ∈ seen, c.token ≠ b.token)
    (h : (buckets.flatMap Record.bucket).length < 2 ^ 32) :
    Reads (bucketsFrom limit seen buckets.length) (buckets.flatMap Record.bucket) buckets := by
  induction buckets generalizing seen with
  | nil => exact Reads.pure []
  | cons b buckets ih =>
    obtain ⟨hb, htokens⟩ := List.pairwise_cons.mp htokens
    simp only [List.flatMap_cons, List.length_append, Record.bucket] at h
    have hnew : ¬ seen.any (·.token == b.token) := by
      rw [List.any_eq_true]
      rintro ⟨c, hc, htoken⟩
      exact hseen b (List.mem_cons_self ..) c hc (beq_iff_eq.mp htoken)
    have hlater : ∀ c ∈ buckets, ∀ d ∈ b :: seen, d.token ≠ c.token := by
      intro c hc d hd
      rcases List.mem_cons.mp hd with rfl | hd
      · exact hb c hc
      · exact hseen c (List.mem_cons_of_mem _ hc) d hd
    have hbuckets := ih (fun c hc => hrows c (List.mem_cons_of_mem _ hc)) htokens hlater (by omega)
    have hrow := hrows b (List.mem_cons_self ..)
    unfold bucketsFrom
    rw [List.flatMap_cons, Record.bucket, List.append_assoc]
    refine Reads.here_bind fun offset => (reads_word b.token).bind ?_
    refine (reads_row hlimit hrow (by omega)).bind ?_
    dsimp only
    rw [if_neg hnew]
    exact hbuckets.bind_pure (b :: ·)

/-- **An index is read as it was written.** -/
theorem readsAll_index {limit : Nat} (hlimit : limit ≤ 2 ^ 32) {i : TokenIndex}
    (hfiled : i.IsFiled limit) (h : (Record.index i).length < 2 ^ 32) :
    ReadsAll (index limit) (Record.index i) i := by
  have hcount : i.buckets.length ≤ (i.buckets.flatMap Record.bucket).length :=
    length_le_length_flatMap (fun b => by simp [Record.bucket, LittleEndian.ofWord]) _
  simp only [Record.index, Record.list, List.length_append] at h
  have hdistinct : i.buckets.Pairwise (·.token ≠ ·.token) :=
    hfiled.tokens.imp fun hlt => UInt32.ne_of_lt hlt
  -- a reader sorts the buckets at last, and they are in order already
  have hsorted : (i.buckets.mergeSort fun a b => a.token ≤ b.token) = i.buckets :=
    List.mergeSort_of_pairwise (hfiled.tokens.imp fun hlt => decide_eq_true (UInt32.le_of_lt hlt))
  have hbuckets : Reads (bucketsFrom limit [] i.buckets.length)
      (i.buckets.flatMap Record.bucket) i.buckets :=
    reads_bucketsFrom hlimit hfiled.rows hdistinct (by simp) (by omega)
  have hcatchAll : Reads (postings limit) (Record.postings i.catchAll) i.catchAll :=
    reads_row hlimit hfiled.catchAll (by omega)
  have hparts : Reads (count >>= fun n => bucketsFrom limit [] n >>= fun buckets =>
      postings limit >>= fun catchAll => pure (buckets, catchAll))
      (Record.index i) (i.buckets, i.catchAll) := by
    rw [Record.index, Record.list, toNat_toUInt32_of_lt (by omega), List.append_assoc]
    refine Reads.count_bind (by omega) (by rw [List.length_append]; omega) (hbuckets.bind ?_)
    exact hcatchAll.bind_pure fun catchAll => (i.buckets, catchAll)
  have hall := hparts.finish fun parts =>
    TokenIndex.mk (parts.1.mergeSort fun a b => a.token ≤ b.token) parts.2
  rw [hsorted] at hall
  simp only [bind_assoc, pure_bind] at hall
  exact hall

/-- **Records are read as they were written**, where each of them is. -/
theorem readsAll_list {α : Type} {read : Reader α} {write : α → List UInt8} {items : List α}
    (hwrite : ∀ a, 0 < (write a).length)
    (hread : ∀ a ∈ items, (write a).length < 2 ^ 32 → Reads read (write a) a)
    (h : (Record.list write items).length < 2 ^ 32) :
    ReadsAll (list read) (Record.list write items) items := by
  have hcount : items.length ≤ (items.flatMap write).length :=
    length_le_length_flatMap hwrite items
  rw [Record.list, List.length_append] at h
  have hitems : ∀ a ∈ items, Reads read (write a) a := by
    intro a ha
    have hle : (write a).length ≤ (items.flatMap write).length :=
      (List.sublist_flatten_of_mem (List.mem_map_of_mem ha)).length_le
    exact hread a ha (by omega)
  have hparts : Reads (count >>= fun n => repeated read n) (Record.list write items) items := by
    rw [Record.list, toNat_toUInt32_of_lt (by omega)]
    exact Reads.count_bind (by omega) hcount (reads_repeated hitems)
  have hall := hparts.finish fun items => items
  simp only [bind_assoc] at hall
  exact hall

end Reader

end Blocklist
