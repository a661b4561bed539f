import Blocklist.Proofs.Codebook.Pieces
import Blocklist.Proofs.Text.Cut
/-!
# Codebooks — encoding is greedy

The encoder scans from the left. Where an entry fits, it writes the code of
one; the first that fits is taken from those that begin with the same byte,
and it is the longest where longer entries stand before shorter ones
(`isLongest_of_hit?`). Bytes at which none fits are pending until one does,
and are then written as a stretch, in runs of 256 (`exists_stretch`).

Main statement: what is written is the greedy parse of the text, and at most
twice as long as the text is (`encode_greedy`).
-/

namespace Blocklist

namespace Codebook

/-- Some entry goes before `bytes`. -/
def Fits (entries : List (List UInt8)) (bytes : List UInt8) : Prop :=
  ∃ entry ∈ entries, entry <+: bytes

/-- Where `bytes` go before `rest`, no entry fits at any of them. -/
def Misses (entries : List (List UInt8)) (bytes rest : List UInt8) : Prop :=
  ∀ front back, bytes = front ++ back → back ≠ [] → ¬ Fits entries (back ++ rest)

/-- The code of an entry that goes before `bytes`, of which none is longer. -/
structure IsLongest (entries : List (List UInt8)) (bytes : List UInt8) (code : UInt8)
    (entry : List UInt8) : Prop where
  /-- The code is that of the entry. -/
  code_eq : entries[code.toNat]? = some entry
  /-- The entry goes before the bytes. -/
  fits : entry <+: bytes
  /-- No entry that does is longer. -/
  longest : ∀ other ∈ entries, other <+: bytes → other.length ≤ entry.length

/-- Bytes in runs of 256, and what is left. -/
structure Stretch where
  /-- The runs. -/
  runs : List (List UInt8)
  /-- What is left. -/
  left : List UInt8
  /-- The runs are as long as runs can be. -/
  full : ∀ run ∈ runs, run.length = 256
  /-- What is left is shorter. -/
  short : left.length < 256

namespace Stretch

/-- The bytes of a stretch. -/
def bytes (s : Stretch) : List UInt8 := s.runs.flatten ++ s.left

/-- What is left after the runs, behind one escape. -/
def escaped : List UInt8 → List UInt8
  | [] => []
  | [b] => [254, b]
  | bytes => 255 :: (bytes.length - 1).toUInt8 :: bytes

/-- A stretch behind its escapes. -/
def codes (s : Stretch) : List UInt8 :=
  s.runs.flatMap (fun run => 255 :: 255 :: run) ++ escaped s.left

/-- A stretch with a run before it. -/
def cons (s : Stretch) (run : List UInt8) (hrun : run.length = 256) : Stretch :=
  ⟨run :: s.runs, s.left, List.forall_mem_cons.mpr ⟨hrun, s.full⟩, s.short⟩

theorem bytes_cons {run : List UInt8} (hrun : run.length = 256) (s : Stretch) :
    (s.cons run hrun).bytes = run ++ s.bytes :=
  List.append_assoc ..

theorem codes_cons {run : List UInt8} (hrun : run.length = 256) (s : Stretch) :
    (s.cons run hrun).codes = 255 :: 255 :: run ++ s.codes :=
  List.append_assoc ..

end Stretch

/-- A part of what the encoder writes. -/
inductive Part where
  /-- The code of an entry. -/
  | entry (code : UInt8)
  /-- Bytes that stand for themselves. -/
  | stretch (s : Stretch)

/-- The codes of a part. -/
def Part.codes : Part → List UInt8
  | entry code => [code]
  | stretch s => s.codes

/-- **The greedy parse**, from the left. -/
inductive IsGreedy (entries : List (List UInt8)) : (parts : List Part) → (bytes : List UInt8) → Prop
    where
  /-- There is nothing left. -/
  | nil : IsGreedy entries [] []
  /-- Where entries fit, one of the longest is taken. -/
  | entry {code : UInt8} {entry rest : List UInt8} {parts : List Part}
    (hlongest : IsLongest entries (entry ++ rest) code entry)
    (hrest : IsGreedy entries parts rest) :
    IsGreedy entries (.entry code :: parts) (entry ++ rest)
  /-- A stretch has all bytes up to the end, or up to where an entry fits again. -/
  | stretch {s : Stretch} {rest : List UInt8} {parts : List Part} (hne : s.bytes ≠ [])
    (hmiss : Misses entries s.bytes rest) (hend : rest = [] ∨ Fits entries rest)
    (hrest : IsGreedy entries parts rest) :
    IsGreedy entries (.stretch s :: parts) (s.bytes ++ rest)

variable {entries : List (List UInt8)} {pending bytes rest : List UInt8} {code : UInt8}

/-! ## The first that fits is the longest -/

/-- Entries of one bucket are in the order of the table. -/
theorem pairwise_bucket (hsorted : entries.Pairwise fun a b => b.length ≤ a.length)
    (first : UInt8) :
    (bucket entries first).Pairwise fun a b => b.2.length ≤ a.2.length := by
  have hplaces : entries.zipIdx.Pairwise fun a b => b.1.length ≤ a.1.length := by
    rwa [← List.zipIdx_map_fst 0 entries, List.pairwise_map] at hsorted
  exact List.pairwise_map.mpr (hplaces.filter _)

/-- An entry that fits is in the bucket of the first byte. -/
theorem mem_bucket_of_prefix {entry : List UInt8} {b : UInt8} (hmem : entry ∈ entries)
    (hne : entry ≠ []) (hfits : entry <+: b :: rest) :
    ∃ code, (code, entry) ∈ bucket entries b := by
  obtain ⟨i, hi⟩ := List.getElem?_of_mem hmem
  have hfirst : entry.head? = some b := by
    obtain ⟨c, tail, rfl⟩ := List.exists_cons_of_ne_nil hne
    rw [List.head?_cons, (List.cons_prefix_cons.mp hfits).1]
  exact ⟨i.toUInt8, mem_bucket_iff.mpr ⟨i, hi, rfl, hfirst⟩⟩

/-- Where nothing is hit, no entry fits. -/
theorem not_fits_of_hit?_eq_none {b : UInt8} (hne : [] ∉ entries)
    (h : hit? entries (b :: rest) = none) : ¬ Fits entries (b :: rest) := by
  rintro ⟨entry, hmem, hfits⟩
  obtain ⟨code, hbucket⟩ := mem_bucket_of_prefix hmem (fun e => hne (e ▸ hmem)) hfits
  have hmiss := List.findSome?_eq_none_iff.mp h (code, entry) hbucket
  exact Text.dropOpening?_eq_none_iff.mp (Option.map_eq_none_iff.mp hmiss) hfits

/-- **What is hit is the longest entry that fits**, where longer entries stand before shorter. -/
theorem isLongest_of_hit? (hlength : entries.length ≤ 254) (hne : [] ∉ entries)
    (hsorted : entries.Pairwise fun a b => b.length ≤ a.length)
    (h : hit? entries bytes = some (code, rest)) :
    ∃ entry, bytes = entry ++ rest ∧ IsLongest entries bytes code entry := by
  cases bytes with
  | nil => cases h
  | cons b bytes =>
    obtain ⟨before, ⟨c, entry⟩, behind, hbucket, hfound, hbefore⟩ :=
      List.findSome?_eq_some_iff.mp h
    obtain ⟨after, hafter, hpair⟩ := Option.map_eq_some_iff.mp hfound
    obtain ⟨rfl, rfl⟩ := Prod.mk.inj hpair
    have hbytes := Text.eq_append_of_dropOpening? hafter
    have hplace : (c, entry) ∈ bucket entries b := by
      rw [hbucket]
      exact List.mem_append_right _ (List.mem_cons_self ..)
    obtain ⟨i, hi, rfl, -⟩ := mem_bucket_iff.mp hplace
    have hlt : i < entries.length := (List.getElem?_eq_some_iff.mp hi).1
    have hcode : i.toUInt8.toNat = i := UInt8.toNat_ofNat_of_lt' (show i < 256 by omega)
    refine ⟨entry, hbytes, by rwa [hcode], hbytes ▸ List.prefix_append entry after, ?_⟩
    -- another that fits is in the same bucket, and not before the one that is hit
    intro other hmem hfits
    obtain ⟨c', hother⟩ := mem_bucket_of_prefix hmem (fun e => hne (e ▸ hmem)) hfits
    rw [hbucket] at hother
    rcases List.mem_append.mp hother with hother | hother
    · have hmiss := Option.map_eq_none_iff.mp (hbefore _ hother)
      exact absurd hfits (Text.dropOpening?_eq_none_iff.mp hmiss)
    · have hpairwise := pairwise_bucket hsorted b
      rw [hbucket] at hpairwise
      have hbehind := (List.pairwise_cons.mp (List.pairwise_append.mp hpairwise).2.1).1
      rcases List.mem_cons.mp hother with heq | hother
      · rw [(Prod.mk.inj heq).2]
      · exact hbehind _ hother

/-! ## Stretches -/

/-- **Bytes that stand for themselves are written as a stretch.** -/
theorem exists_stretch (bytes : List UInt8) :
    ∃ s : Stretch, s.bytes = bytes ∧ s.codes = verbatim bytes := by
  fun_induction verbatim bytes with
  | case1 => exact ⟨⟨[], [], by simp, by simp⟩, rfl, rfl⟩
  | case2 b => exact ⟨⟨[], [b], by simp, by simp⟩, rfl, rfl⟩
  | case3 a b rest run ih =>
    by_cases hfull : 256 ≤ (a :: b :: rest).length
    · obtain ⟨s, hbytes, hcodes⟩ := ih
      have hrun : run.length = 256 := by
        rw [List.length_take, longestRun, Nat.min_eq_left hfull]
      have hcount : (run.length - 1).toUInt8 = 255 := by
        rw [hrun]
        rfl
      refine ⟨s.cons run hrun, ?_, ?_⟩
      · rw [Stretch.bytes_cons, hbytes, List.take_append_drop]
      · rw [Stretch.codes_cons, hcodes, hcount]
        rfl
    · -- fewer bytes than a run has are all taken
      have hlt := Nat.not_le.mp hfull
      have hle : (a :: b :: rest).length ≤ longestRun := Nat.le_of_lt hlt
      have hrun : run = a :: b :: rest := List.take_of_length_le hle
      refine ⟨⟨[], a :: b :: rest, by simp, hlt⟩, rfl, ?_⟩
      rw [List.drop_eq_nil_of_le hle, verbatim, List.append_nil, hrun]
      rfl

theorem length_verbatim_le (bytes : List UInt8) : (verbatim bytes).length ≤ 2 * bytes.length := by
  fun_induction verbatim bytes with
  | case1 => exact Nat.le_refl _
  | case2 b => exact Nat.le_refl _
  | case3 a b rest run ih =>
    -- a run has two bytes at least, so its two codes are no more than it has
    have htwo : 2 ≤ run.length := by
      simp only [run, longestRun, List.length_take, List.length_cons]
      omega
    have hsplit : run.length + ((a :: b :: rest).drop longestRun).length
        = (a :: b :: rest).length := by
      rw [← List.length_append, List.take_append_drop]
    simp only [List.length_append, List.length_cons] at *
    omega

/-! ## Scanning -/

theorem Misses.nil : Misses entries [] rest := by
  intro front back hparts hne
  exact absurd (List.append_eq_nil_iff.mp hparts.symm).2 hne

/-- One byte more is missed. -/
theorem Misses.snoc {b : UInt8} (h : Misses entries pending (b :: rest))
    (hb : ¬ Fits entries (b :: rest)) : Misses entries (pending ++ [b]) rest := by
  intro front back hparts hne
  obtain ⟨back, c, rfl⟩ := (List.eq_nil_or_concat back).resolve_left hne
  rw [List.concat_eq_append, ← List.append_assoc] at hparts
  obtain ⟨hpending, hlast⟩ := List.append_inj' hparts rfl
  obtain rfl := List.singleton_inj.mp hlast
  rw [List.concat_eq_append, List.append_assoc, List.singleton_append]
  by_cases hback : back = []
  · rwa [hback]
  · exact h front back hpending hback

/-- What is pending is written where an entry fits again, or at the end. -/
theorem exists_parts_verbatim {parts : List Part} (hmiss : Misses entries pending rest)
    (hend : rest = [] ∨ Fits entries rest) (hrest : IsGreedy entries parts rest) :
    ∃ all, IsGreedy entries all (pending ++ rest)
      ∧ verbatim pending ++ parts.flatMap Part.codes = all.flatMap Part.codes := by
  obtain ⟨s, rfl, hcodes⟩ := exists_stretch pending
  by_cases hne : s.bytes = []
  · refine ⟨parts, by rwa [hne], ?_⟩
    rw [hne, verbatim, List.nil_append]
  · refine ⟨.stretch s :: parts, .stretch hne hmiss hend hrest, ?_⟩
    rw [← hcodes, List.flatMap_cons, Part.codes]

/-- **Whatever was missed before, the rest is parsed greedily.** -/
theorem exists_parts (hlength : entries.length ≤ 254) (hne : [] ∉ entries)
    (hsorted : entries.Pairwise fun a b => b.length ≤ a.length)
    (hmiss : Misses entries pending bytes) :
    ∃ parts, IsGreedy entries parts (pending ++ bytes)
      ∧ encodeFrom entries pending bytes = parts.flatMap Part.codes := by
  fun_induction encodeFrom entries pending bytes with
  | case1 pending =>
    obtain ⟨parts, hgreedy, hcodes⟩ := exists_parts_verbatim hmiss (.inl rfl) .nil
    exact ⟨parts, hgreedy, hcodes ▸ (List.append_nil _).symm⟩
  | case2 pending b rest code after hhit ih =>
    obtain ⟨entry, hbytes, hlongest⟩ := isLongest_of_hit? hlength hne hsorted hhit
    obtain ⟨parts, hgreedy, hcodes⟩ := ih Misses.nil
    have hfits : Fits entries (b :: rest) :=
      ⟨entry, List.mem_of_getElem? hlongest.code_eq, hlongest.fits⟩
    rw [hbytes] at hlongest hfits hmiss ⊢
    obtain ⟨all, hall, hallCodes⟩ :=
      exists_parts_verbatim hmiss (.inr hfits) (.entry hlongest hgreedy)
    refine ⟨all, hall, ?_⟩
    rw [← hallCodes, hcodes, List.flatMap_cons]
    rfl
  | case3 pending b rest hnone ih =>
    obtain ⟨parts, hgreedy, hcodes⟩ := ih (hmiss.snoc (not_fits_of_hit?_eq_none hne hnone))
    rw [List.append_assoc] at hgreedy
    exact ⟨parts, hgreedy, hcodes⟩

/-- An entry that is hit takes a byte at least, and one code. -/
theorem length_encodeFrom_le (entries : List (List UInt8)) (pending bytes : List UInt8) :
    (encodeFrom entries pending bytes).length ≤ 2 * (pending.length + bytes.length) := by
  fun_induction encodeFrom entries pending bytes with
  | case1 pending => exact length_verbatim_le pending
  | case2 pending b rest code after hhit ih =>
    have hafter := length_lt_of_hit? hhit
    have hpending := length_verbatim_le pending
    simp only [List.length_append, List.length_cons, List.length_nil] at *
    omega
  | case3 pending b rest hnone ih =>
    simp only [List.length_append, List.length_cons, List.length_nil] at *
    omega

/-! ## Texts -/

/-- **Encoding is greedy.** Where the table has no empty entry, and none before a longer one, what
is written is the greedy parse of the text; and whatever the entries are, there are at most two
codes for each byte. -/
theorem encode_greedy (book : Codebook) (h : book.table.length ≤ 254) :
    ([] ∉ book.entries → book.entries.Pairwise (fun a b => b.length ≤ a.length) →
      ∀ text, ∃ parts, IsGreedy book.entries parts (Text.utf8 text)
        ∧ book.encode text = parts.flatMap Part.codes)
    ∧ ∀ text, (book.encode text).length ≤ 2 * (Text.utf8 text).length := by
  constructor
  · intro hne hsorted text
    exact exists_parts (by rwa [length_entries]) hne hsorted Misses.nil
  · intro text
    have hle := length_encodeFrom_le book.entries [] (Text.utf8 text)
    rwa [List.length_nil, Nat.zero_add] at hle

/-- A book of which each entry begins with the next. -/
def nestedBook : Codebook := ⟨"nested", ["adserver", "ads", "ad"]⟩

theorem encode_greedy_nestedBook :
    nestedBook.table.length ≤ 254 ∧ [] ∉ nestedBook.entries
    ∧ nestedBook.entries.Pairwise (fun a b => b.length ≤ a.length)
    ∧ (∃ parts, IsGreedy nestedBook.entries parts (Text.utf8 "badserve")
      ∧ nestedBook.encode "badserve" = parts.flatMap Part.codes)
    ∧ (nestedBook.encode "badserve").length ≤ 2 * (Text.utf8 "badserve").length := by
  have h : nestedBook.table.length ≤ 254 := by decide
  have hne : [] ∉ nestedBook.entries := by decide
  have hsorted : nestedBook.entries.Pairwise (fun a b => b.length ≤ a.length) := by decide
  exact ⟨h, hne, hsorted, (encode_greedy nestedBook h).1 hne hsorted "badserve",
    (encode_greedy nestedBook h).2 "badserve"⟩

end Codebook

end Blocklist
