import Blocklist.Proofs.Snapshot.RoundTrip
/-!
# Snapshots — what a reader lets through

Whatever the bytes, what a reader gives has the form that later parts rely
on (`Reader.Yields`). Main statements: an engine that was read from any bytes
is sound, its rows of positions ascend and stay within the filters
(`isSound_of_ofSnapshot`); and so its own snapshot can be read again
(`ofSnapshot_snapshot_of_ofSnapshot`).
-/

namespace Blocklist

namespace Reader

variable {α β : Type} {read : Reader α} {next : α → Reader β} {P : α → Prop} {Q : β → Prop}

/-- Whatever a reader gives is of this kind. -/
def Yields (read : Reader α) (P : α → Prop) : Prop :=
  ∀ c value c', read.run c = .ok (value, c') → P value

/-! ## Rules -/

theorem Yields.any (read : Reader α) : Yields read fun _ => True := fun _ _ _ _ => trivial

theorem Yields.pure {a : α} (h : P a) : Yields (Pure.pure a) P := by
  intro c value c' hrun
  obtain ⟨rfl, -⟩ := Prod.mk.inj (Except.ok.inj hrun)
  exact h

theorem Yields.bind (hread : Yields read P) (hnext : ∀ a, P a → Yields (next a) Q) :
    Yields (read >>= next) Q := by
  intro c value c' hrun
  rw [StateT.run_bind, bind_eq_ok_iff] at hrun
  obtain ⟨⟨a, c₁⟩, hread', hnext'⟩ := hrun
  exact hnext a (hread c a c₁ hread') c₁ value c' hnext'

/-- Where nothing is known of what was read before. -/
theorem Yields.after (hnext : ∀ a, Yields (next a) Q) : Yields (read >>= next) Q :=
  (Yields.any read).bind fun a _ => hnext a

theorem Yields.imp (hread : Yields read P) {P' : α → Prop} (h : ∀ a, P a → P' a) :
    Yields read P' :=
  fun c value c' hrun => h value (hread c value c' hrun)

theorem Yields.throw (e : SnapshotError) (failed : α → Reader β) :
    Yields (throw e >>= failed) Q :=
  fun _ _ _ hrun => nomatch hrun

theorem Yields.ite {c : Prop} [Decidable c] {first second : Reader β} (hfirst : c → Yields first Q)
    (hsecond : ¬ c → Yields second Q) : Yields (if c then first else second) Q := by
  split
  · next h => exact hfirst h
  · next h => exact hsecond h

/-- What is read after a check has passed it. -/
theorem Yields.guard {e : SnapshotError} {c : Prop} [Decidable c] {failed : PUnit → Reader β}
    {rest : Reader β} (hrest : ¬ c → Yields rest Q) :
    Yields (if c then MonadExcept.throw e >>= failed else rest) Q :=
  Yields.ite (fun _ => Yields.throw e failed) hrest

/-! ## Positions -/

/-- Positions ascend from the one before, and stay below the limit. -/
theorem yields_positionsFrom (limit : Nat) (previous : Option Nat) (n : Nat) :
    Yields (positionsFrom limit previous n) fun positions =>
      IsRow limit positions ∧ ∀ q ∈ previous, ∀ p ∈ positions, q < p := by
  induction n generalizing previous with
  | zero => exact Yields.pure ⟨⟨List.Pairwise.nil, by simp⟩, by simp⟩
  | succ n ih =>
    unfold positionsFrom
    refine Yields.after fun offset => Yields.after fun step => Yields.guard fun hmoves => ?_
    refine Yields.guard fun _ => Yields.guard fun hbelow => ?_
    refine (ih (some (previous.getD 0 + step))).bind fun positions hpositions => ?_
    obtain ⟨⟨hascending, hrow⟩, hlater⟩ := hpositions
    -- only the first position may be reached by no step
    have hfirst : ∀ q ∈ previous, q < previous.getD 0 + step := by
      intro q hq
      obtain rfl := Option.mem_def.mp hq
      simp only [Option.isSome_some, Bool.true_and, beq_iff_eq] at hmoves
      simp only [Option.getD_some]
      omega
    refine Yields.pure ⟨⟨List.pairwise_cons.mpr ⟨hlater _ rfl, hascending⟩, ?_⟩, ?_⟩
    · intro p hp
      rcases List.mem_cons.mp hp with rfl | hp
      · omega
      · exact hrow p hp
    · intro q hq p hp
      rcases List.mem_cons.mp hp with rfl | hp
      · exact hfirst q hq
      · exact Nat.lt_trans (hfirst q hq) (hlater _ rfl p hp)

theorem yields_postings (limit : Nat) : Yields (postings limit) (IsRow limit) := by
  unfold postings
  refine Yields.after fun n => Yields.after fun left => Yields.ite (fun _ => ?_) fun _ => ?_
  · exact Yields.after fun offset => Yields.throw _ _
  · exact (yields_positionsFrom limit none n).imp fun positions h => h.1

/-! ## Records -/

theorem yields_repeated (h : Yields read P) (n : Nat) :
    Yields (repeated read n) fun items => ∀ a ∈ items, P a := by
  induction n with
  | zero => exact Yields.pure (by simp)
  | succ n ih =>
    unfold repeated
    refine h.bind fun first hfirst => ih.bind fun items hitems => Yields.pure fun a ha => ?_
    rcases List.mem_cons.mp ha with rfl | ha
    · exact hfirst
    · exact hitems a ha

theorem yields_list (h : Yields read P) : Yields (list read) fun items => ∀ a ∈ items, P a := by
  unfold list
  refine Yields.after fun n => (yields_repeated h n).bind fun items hitems => ?_
  exact Yields.after fun _ => Yields.pure hitems

theorem yields_bits (count : UInt8) (fault : RecordFault) :
    Yields (bits count fault) fun set => set >>> count = 0 := by
  unfold bits
  refine Yields.after fun offset => Yields.after fun set => Yields.guard fun hset => ?_
  exact Yields.pure (by simpa using hset)

/-- A cosmetic filter has known options only. -/
theorem yields_cosmetic : Yields cosmetic fun f => f.mask.IsKnown := by
  unfold cosmetic
  refine (yields_bits 3 .cosmeticMask).bind fun mask hmask => ?_
  refine Yields.after fun present => Yields.after fun selector => ?_
  exact Yields.after fun hostnames => Yields.after fun rawLine => Yields.pure hmask

/-! ## Indexes -/

/-- Buckets have a row each, and a token of their own. -/
theorem yields_bucketsFrom (limit : Nat) (seen : List Bucket) (n : Nat) :
    Yields (bucketsFrom limit seen n) fun buckets =>
      (∀ b ∈ buckets, IsRow limit b.positions) ∧ buckets.Pairwise (·.token ≠ ·.token)
        ∧ ∀ b ∈ buckets, ∀ c ∈ seen, c.token ≠ b.token := by
  induction n generalizing seen with
  | zero => exact Yields.pure ⟨by simp, List.Pairwise.nil, by simp⟩
  | succ n ih =>
    unfold bucketsFrom
    refine Yields.after fun offset => Yields.after fun token => ?_
    refine (yields_postings limit).bind fun positions hpositions => Yields.guard fun hnew => ?_
    refine (ih _).bind fun buckets hbuckets => Yields.pure ?_
    obtain ⟨hrows, htokens, hseen⟩ := hbuckets
    -- this bucket was compared with those before it, and later ones with this one as well
    refine ⟨?_, List.pairwise_cons.mpr ⟨?_, htokens⟩, ?_⟩
    · intro b hb
      rcases List.mem_cons.mp hb with rfl | hb
      · exact hpositions
      · exact hrows b hb
    · intro b hb
      exact hseen b hb _ (List.mem_cons_self ..)
    · intro b hb c hc
      rcases List.mem_cons.mp hb with rfl | hb
      · rw [List.any_eq_true] at hnew
        exact fun htoken => hnew ⟨c, hc, beq_iff_eq.mpr htoken⟩
      · exact hseen b hb c (List.mem_cons_of_mem _ hc)

/-- Buckets of distinct tokens are put in the order of these. -/
theorem pairwise_token_mergeSort {buckets : List Bucket}
    (h : buckets.Pairwise (·.token ≠ ·.token)) :
    (buckets.mergeSort fun a b => a.token ≤ b.token).Pairwise (·.token < ·.token) := by
  have hle : (buckets.mergeSort fun a b => a.token ≤ b.token).Pairwise
      fun a b => decide (a.token ≤ b.token) = true := by
    refine List.pairwise_mergeSort (fun a b c hab hbc => ?_) (fun a b => ?_) buckets
    · exact decide_eq_true (UInt32.le_trans (of_decide_eq_true hab) (of_decide_eq_true hbc))
    · rw [Bool.or_eq_true, decide_eq_true_eq, decide_eq_true_eq]
      exact UInt32.le_total a.token b.token
  have hne : (buckets.mergeSort fun a b => a.token ≤ b.token).Pairwise (·.token ≠ ·.token) :=
    ((List.mergeSort_perm buckets _).pairwise_iff Ne.symm).mpr h
  refine (hle.and hne).imp ?_
  rintro a b ⟨hab, hdistinct⟩
  exact UInt32.lt_of_le_of_ne (of_decide_eq_true hab) hdistinct

/-- **An index is filed as it should be**, whatever the bytes. -/
theorem yields_index (limit : Nat) : Yields (index limit) (TokenIndex.IsFiled limit) := by
  unfold index
  refine Yields.after fun n => (yields_bucketsFrom limit [] n).bind fun buckets hbuckets => ?_
  refine (yields_postings limit).bind fun catchAll hcatchAll => Yields.after fun _ => ?_
  obtain ⟨hrows, htokens, -⟩ := hbuckets
  exact Yields.pure ⟨pairwise_token_mergeSort htokens,
    fun b hb => hrows b (List.mem_mergeSort.mp hb), hcatchAll⟩

end Reader

namespace Snapshot

variable {s : Snapshot} {α : Type} {reader : Reader α} {P : α → Prop}

theorem of_readSection {part : Section} {value : α} (hreader : reader.Yields P)
    (h : s.readSection part reader = .ok value) : P value := by
  unfold readSection at h
  split at h
  · exact nomatch h
  · next info hinfo =>
    cases hrun : reader.run ⟨info.offset, info.bytes s.data⟩ with
    | error e => rw [hrun] at h; exact nomatch h
    | ok result =>
      rw [hrun] at h
      obtain rfl := Except.ok.inj h
      exact hreader _ _ _ hrun

end Snapshot

namespace Engine

variable {data : List UInt8} {e : Engine}

/-- **Whatever is read is sound.** -/
theorem isSound_of_ofSnapshot (h : Engine.ofSnapshot data = .ok e) : e.IsSound := by
  obtain ⟨s, -, hengine⟩ := Engine.ofSnapshot_eq_ok_iff.mp h
  obtain ⟨-, hcosmetic, hblocks, hexceptions, hredirects, hcsp, hbyHost, hgeneric⟩ :=
    Snapshot.engine_eq_ok_iff.mp hengine
  refine ⟨Snapshot.of_readSection (Reader.yields_list Reader.yields_cosmetic) hcosmetic,
    ?_, ?_, ?_, ?_, ?_, ?_⟩
  · exact Snapshot.of_readSection (Reader.yields_index _) hblocks
  · exact Snapshot.of_readSection (Reader.yields_index _) hexceptions
  · exact Snapshot.of_readSection (Reader.yields_index _) hredirects
  · exact Snapshot.of_readSection (Reader.yields_index _) hcsp
  · exact Snapshot.of_readSection (Reader.yields_index _) hbyHost
  · exact Snapshot.of_readSection (Reader.yields_index _) hgeneric

/-- **What is read of any bytes can be written and read again**: its rows ascend and stay within
the filters, and its own snapshot gives the same filters and the same indexes. -/
theorem ofSnapshot_snapshot_of_ofSnapshot (h : Engine.ofSnapshot data = .ok e) :
    e.indexes.AreFiled e.network.size e.cosmetic.size
      ∧ (e.snapshot.length < 2 ^ 32 → Engine.ofSnapshot e.snapshot = .ok e) := by
  have hsound := isSound_of_ofSnapshot h
  exact ⟨hsound.filed, ofSnapshot_snapshot hsound⟩

theorem ofSnapshot_snapshot_of_ofSnapshot_full :
    let e := Engine.build [fullFilter] [unhideFilter]
    Engine.ofSnapshot e.snapshot = .ok e ∧ e.snapshot.length < 2 ^ 32
      ∧ e.indexes.AreFiled e.network.size e.cosmetic.size := by
  intro e
  have hread : Engine.ofSnapshot e.snapshot = .ok e :=
    ofSnapshot_snapshot (isSound_build [fullFilter] isKnown_of_mem_unhideFilter)
      length_snapshot_fullFilter
  obtain ⟨hfiled, hagain⟩ := ofSnapshot_snapshot_of_ofSnapshot hread
  exact ⟨hagain length_snapshot_fullFilter, length_snapshot_fullFilter, hfiled⟩

end Engine

end Blocklist
