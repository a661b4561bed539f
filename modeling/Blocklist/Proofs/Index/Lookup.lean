import Mathlib.Data.List.Pairwise
import Blocklist.Index.Basic
/-!
# Index — what a lookup finds

The places of an index are kept as rows: strictly ascending, and within the
list of filters. Main statement: a position is a candidate exactly where its
entry is filed without a token, or under a token that is looked up
(`mem_candidates_build`); so a group of tokens that is looked up as a whole
is never missed (`mem_candidates_of_group`).
-/

namespace Blocklist

variable {α : Type}

/-! ## Ascending lists -/

/-- What is left of an ordered list is ordered, and no two neighbours are equal. -/
theorem pairwise_dropRepeats [BEq α] [LawfulBEq α] {le : α → α → Prop}
    (antisymm : ∀ a b, le a b → le b a → a = b) {list : List α} (h : list.Pairwise le) :
    (dropRepeats list).Pairwise fun a b => le a b ∧ a ≠ b := by
  fun_induction dropRepeats list with
  | case1 x y rest hxy ih => exact ih (List.pairwise_cons.mp h).2
  | case2 x y rest hxy ih =>
    obtain ⟨hx, htail⟩ := List.pairwise_cons.mp h
    refine List.pairwise_cons.mpr ⟨fun z hz => ?_, ih htail⟩
    have hz : z ∈ y :: rest := mem_dropRepeats.mp hz
    refine ⟨hx z hz, fun e => hxy ?_⟩
    -- `x` is below `y`, and `y` is below every later member, `x` itself among them
    subst e
    rcases List.mem_cons.mp hz with rfl | hz
    · exact beq_self_eq_true _
    · have hyx : le y x := (List.pairwise_cons.mp htail).1 x hz
      exact beq_iff_eq.mpr (antisymm x y (hx y (List.mem_cons_self ..)) hyx)
  | case3 short hshort =>
    rcases short with _ | ⟨a, _ | ⟨b, rest⟩⟩
    · exact List.Pairwise.nil
    · exact List.pairwise_singleton _ a
    · exact absurd rfl (hshort a b rest)

/-- **An ascending list is ordered, each member once.** -/
theorem pairwise_ascending [BEq α] [LawfulBEq α] {le : α → α → Bool}
    (trans : ∀ a b c, le a b → le b c → le a c) (total : ∀ a b, le a b || le b a)
    (antisymm : ∀ a b, le a b → le b a → a = b) (list : List α) :
    (ascending le list).Pairwise fun a b => le a b ∧ a ≠ b :=
  pairwise_dropRepeats antisymm (List.pairwise_mergeSort trans total list)

/-- Positions are in strict order. -/
theorem pairwise_lt_ascending (list : List Nat) :
    (ascending Nat.ble list).Pairwise (· < ·) := by
  refine (pairwise_ascending ?_ ?_ ?_ list).imp ?_
  · intro a b c hab hbc
    exact Nat.ble_eq.mpr (Nat.le_trans (Nat.ble_eq.mp hab) (Nat.ble_eq.mp hbc))
  · intro a b
    rcases Nat.le_total a b with h | h
    · simp only [Nat.ble_eq.mpr h, Bool.true_or]
    · simp only [Nat.ble_eq.mpr h, Bool.or_true]
  · intro a b hab hba
    exact Nat.le_antisymm (Nat.ble_eq.mp hab) (Nat.ble_eq.mp hba)
  · rintro a b ⟨hle, hne⟩
    exact Nat.lt_of_le_of_ne (Nat.ble_eq.mp hle) hne

/-- A row of positions: strictly ascending, all of them below `limit`. -/
structure IsRow (limit : Nat) (positions : List Nat) : Prop where
  /-- Each position is greater than the one before. -/
  ascending : positions.Pairwise (· < ·)
  /-- No position is beyond the last filter. -/
  below : ∀ p ∈ positions, p < limit

namespace TokenIndex

/-- An index as it is kept: buckets in the order of their tokens, each with a row, and a row of the
positions without a token. -/
structure IsFiled (limit : Nat) (index : TokenIndex) : Prop where
  /-- Each token is greater than the one before. -/
  tokens : index.buckets.Pairwise (·.token < ·.token)
  /-- Each bucket has a row. -/
  rows : ∀ b ∈ index.buckets, IsRow limit b.positions
  /-- The positions without a token are a row. -/
  catchAll : IsRow limit index.catchAll

/-! ## Buckets -/

section Buckets

variable {filed : List (UInt32 × Nat)}

theorem placeLe_iff {a b : UInt32 × Nat} :
    placeLe a b ↔ a.1 < b.1 ∨ a.1 = b.1 ∧ a.2 ≤ b.2 := by
  simp only [placeLe, Bool.or_eq_true, Bool.and_eq_true, decide_eq_true_eq, beq_iff_eq]

/-- The places in order, as they are when buckets are made of them. -/
theorem pairwise_places (filed : List (UInt32 × Nat)) :
    (ascending placeLe filed).Pairwise fun a b => placeLe a b ∧ a ≠ b := by
  refine pairwise_ascending ?_ ?_ ?_ filed
  · intro a b c hab hbc
    rw [placeLe_iff, UInt32.lt_iff_toNat_lt, ← UInt32.toNat_inj] at *
    omega
  · intro a b
    rw [Bool.or_eq_true, placeLe_iff, placeLe_iff, UInt32.lt_iff_toNat_lt, UInt32.lt_iff_toNat_lt,
      ← UInt32.toNat_inj, ← UInt32.toNat_inj]
    omega
  · intro a b hab hba
    rw [placeLe_iff, UInt32.lt_iff_toNat_lt, ← UInt32.toNat_inj] at *
    refine Prod.ext (UInt32.toNat_inj.mp ?_) ?_ <;> omega

/-- The places that buckets stand for. -/
def placesOf (buckets : List Bucket) : List (UInt32 × Nat) :=
  buckets.flatMap fun b => b.positions.map fun p => (b.token, p)

@[simp] theorem mem_placesOf {buckets : List Bucket} {place : UInt32 × Nat} :
    place ∈ placesOf buckets ↔ ∃ b ∈ buckets, b.token = place.1 ∧ place.2 ∈ b.positions := by
  simp only [placesOf, List.mem_flatMap, List.mem_map]
  constructor
  · rintro ⟨b, hb, p, hp, rfl⟩
    exact ⟨b, hb, rfl, hp⟩
  · rintro ⟨b, hb, htoken, hp⟩
    exact ⟨b, hb, place.2, hp, by rw [htoken]⟩

theorem placesOf_fileFirst (place : UInt32 × Nat) (buckets : List Bucket) :
    placesOf (fileFirst place buckets) = place :: placesOf buckets := by
  cases buckets with
  | nil => rfl
  | cons b buckets =>
    simp only [fileFirst]
    split
    · next h => simp [placesOf, beq_iff_eq.mp h]
    · rfl

/-- **Filing loses nothing**: the buckets stand for the places that went in, in their order. -/
@[simp] theorem placesOf_foldr (filed : List (UInt32 × Nat)) :
    placesOf (filed.foldr fileFirst []) = filed := by
  induction filed with
  | nil => rfl
  | cons place filed ih => rw [List.foldr_cons, placesOf_fileFirst, ih]

/-- Every bucket was opened for some position. -/
theorem positions_ne_nil_of_mem_foldr {b : Bucket} (hb : b ∈ filed.foldr fileFirst []) :
    b.positions ≠ [] := by
  induction filed with
  | nil => simp at hb
  | cons place filed ih =>
    rw [List.foldr_cons] at hb
    cases hbuckets : filed.foldr fileFirst [] with
    | nil =>
      rw [hbuckets, fileFirst, List.mem_singleton] at hb
      simp [hb]
    | cons first others =>
      rw [hbuckets] at hb ih
      simp only [fileFirst] at hb
      split at hb
      · rcases List.mem_cons.mp hb with rfl | hb
        · simp
        · exact ih (List.mem_cons_of_mem _ hb)
      · rcases List.mem_cons.mp hb with rfl | hb
        · simp
        · exact ih hb

/-- Ordered places make buckets in the order of their tokens. -/
theorem pairwise_token_foldr (h : filed.Pairwise fun a b => placeLe a b ∧ a ≠ b) :
    (filed.foldr fileFirst []).Pairwise (·.token < ·.token) := by
  induction filed with
  | nil => exact List.Pairwise.nil
  | cons place filed ih =>
    obtain ⟨hplace, htail⟩ := List.pairwise_cons.mp h
    have ih := ih htail
    -- the place is not above any place of a bucket, and every bucket has one
    have hle : ∀ b ∈ filed.foldr fileFirst [], place.1 ≤ b.token := by
      intro b hb
      obtain ⟨p, hp⟩ := List.exists_mem_of_ne_nil _ (positions_ne_nil_of_mem_foldr hb)
      have hmem : (b.token, p) ∈ filed := by
        rw [← placesOf_foldr filed]
        exact mem_placesOf.mpr ⟨b, hb, rfl, hp⟩
      have := (hplace _ hmem).1
      rw [placeLe_iff, UInt32.lt_iff_toNat_lt, ← UInt32.toNat_inj] at this
      rw [UInt32.le_iff_toNat_le]
      dsimp only at this
      omega
    rw [List.foldr_cons]
    cases hbuckets : filed.foldr fileFirst [] with
    | nil => exact List.pairwise_singleton _ _
    | cons first others =>
      rw [hbuckets] at ih hle
      obtain ⟨hfirst, hothers⟩ := List.pairwise_cons.mp ih
      simp only [fileFirst]
      split
      · exact List.pairwise_cons.mpr ⟨hfirst, hothers⟩
      · next hne =>
        have hlt : place.1 < first.token := by
          have := hle first (List.mem_cons_self ..)
          have hne : ¬ place.1 = first.token := fun e => hne (beq_iff_eq.mpr e.symm)
          rw [UInt32.le_iff_toNat_le] at this
          rw [← UInt32.toNat_inj] at hne
          rw [UInt32.lt_iff_toNat_lt]
          omega
        refine List.pairwise_cons.mpr ⟨fun b hb => ?_, ih⟩
        rcases List.mem_cons.mp hb with rfl | hb
        · exact hlt
        · exact UInt32.lt_trans hlt (hfirst b hb)

end Buckets

/-! ## Looking up -/

section Lookup

variable {index : TokenIndex} {token : UInt32} {position : Nat}

/-- A token has one bucket at most. -/
theorem eq_of_token_eq {buckets : List Bucket} (h : buckets.Pairwise (·.token < ·.token))
    {b c : Bucket} (hb : b ∈ buckets) (hc : c ∈ buckets) (htoken : b.token = c.token) : b = c := by
  have hsymm : Std.Symm fun b c : Bucket => b.token ≠ c.token := ⟨fun _ _ => Ne.symm⟩
  have hdistinct : buckets.Pairwise (·.token ≠ ·.token) := h.imp fun hlt => UInt32.ne_of_lt hlt
  by_cases hne : b = c
  · exact hne
  · exact absurd htoken (hdistinct.forall hb hc hne)

/-- Looking a token up gives the positions that are filed under it. -/
theorem mem_positions_iff (h : index.buckets.Pairwise (·.token < ·.token)) :
    position ∈ index.positions token ↔ (token, position) ∈ placesOf index.buckets := by
  rw [mem_placesOf, positions]
  cases hfind : index.buckets.find? (·.token == token) with
  | none =>
    have hnone := List.find?_eq_none.mp hfind
    simp only [Option.map_none, Option.getD_none, List.not_mem_nil, false_iff]
    rintro ⟨b, hb, htoken, -⟩
    exact hnone b hb (beq_iff_eq.mpr htoken)
  | some found =>
    have hmem := List.mem_of_find?_eq_some hfind
    have htoken : found.token = token := by simpa using List.find?_some hfind
    simp only [Option.map_some, Option.getD_some]
    refine ⟨fun hp => ⟨found, hmem, htoken, hp⟩, ?_⟩
    rintro ⟨b, hb, hbtoken, hp⟩
    exact eq_of_token_eq h hb hmem (hbtoken.trans htoken.symm) ▸ hp

theorem mem_candidates {tokens : List UInt32} :
    position ∈ index.candidates tokens
      ↔ (∃ t ∈ tokens, position ∈ index.positions t) ∨ position ∈ index.catchAll := by
  simp only [candidates, mem_ascending, collect, List.mem_append, List.mem_flatMap]

/-- **Candidates come in the order of the filters, each once.** -/
theorem pairwise_candidates (index : TokenIndex) (tokens : List UInt32) :
    (index.candidates tokens).Pairwise (· < ·) :=
  pairwise_lt_ascending _

end Lookup

/-! ## The index of some entries -/

section Build

variable {entries : List IndexEntry} {entry : IndexEntry} {tokens : List UInt32} {limit : Nat}

theorem rarest?_mem {counts : Std.HashMap UInt32 UInt32} {group : List UInt32} {token : UInt32}
    (h : rarest? counts group = some token) : token ∈ group :=
  List.minOn?_mem h

@[simp] theorem rarest?_singleton (counts : Std.HashMap UInt32 UInt32) (token : UInt32) :
    rarest? counts [token] = some token :=
  List.minOn?_singleton

/-- Of two tokens the first counts, unless the second is rarer. -/
theorem rarest?_pair {counts : Std.HashMap UInt32 UInt32} {first second : UInt32}
    (h : weight counts first ≤ weight counts second) :
    rarest? counts [first, second] = some first := by
  rw [rarest?, List.minOn?_cons]
  simp [minOn, h]

@[simp] theorem mem_places {counts : Std.HashMap UInt32 UInt32} {place : Option UInt32 × Nat} :
    place ∈ places counts entry ↔ place.2 = entry.position ∧
      (entry.groups = [] ∧ place.1 = none ∨ ∃ group ∈ entry.groups, rarest? counts group = place.1)
      := by
  obtain ⟨token, position⟩ := place
  unfold places
  split
  · next h => simp [List.isEmpty_iff.mp h, and_comm]
  · next h =>
    have hne : entry.groups ≠ [] := fun e => h (List.isEmpty_iff.mpr e)
    simp only [List.mem_map, Prod.mk.injEq, hne, false_and, false_or]
    constructor
    · rintro ⟨group, hgroup, htoken, rfl⟩
      exact ⟨rfl, group, hgroup, htoken⟩
    · rintro ⟨rfl, group, hgroup, htoken⟩
      exact ⟨group, hgroup, htoken, rfl⟩

/-- The counts by which an index of some entries was built. -/
def countsOf (entries : List IndexEntry) : Std.HashMap UInt32 UInt32 :=
  histogram (entries.flatMap fun entry => entry.groups.flatten)

theorem mem_placesOf_build {place : UInt32 × Nat} :
    place ∈ placesOf (build entries).buckets
      ↔ ∃ entry ∈ entries, (some place.1, place.2) ∈ places (countsOf entries) entry := by
  obtain ⟨token, position⟩ := place
  simp only [build, bucketsOf, placesOf_foldr, mem_ascending, List.mem_filterMap, List.mem_flatMap]
  constructor
  · rintro ⟨⟨token', position'⟩, ⟨entry, hentry, hplace⟩, hsome⟩
    obtain ⟨t, rfl, ht⟩ := Option.map_eq_some_iff.mp hsome
    obtain ⟨rfl, rfl⟩ := Prod.mk.inj ht
    exact ⟨entry, hentry, hplace⟩
  · rintro ⟨entry, hentry, hplace⟩
    exact ⟨(some token, position), ⟨entry, hentry, hplace⟩, rfl⟩

theorem mem_catchAll_build {position : Nat} :
    position ∈ (build entries).catchAll
      ↔ ∃ entry ∈ entries, (none, position) ∈ places (countsOf entries) entry := by
  simp only [build, mem_ascending, List.mem_map, List.mem_filter, List.mem_flatMap]
  constructor
  · rintro ⟨⟨token, position⟩, ⟨⟨entry, hentry, hplace⟩, hnone⟩, rfl⟩
    rw [Option.isNone_iff_eq_none] at hnone
    exact ⟨entry, hentry, hnone ▸ hplace⟩
  · rintro ⟨entry, hentry, hplace⟩
    exact ⟨(none, position), ⟨⟨entry, hentry, hplace⟩, rfl⟩, rfl⟩

/-- **An index of entries below `limit` is filed as it should be.** -/
theorem isFiled_build (h : ∀ entry ∈ entries, entry.position < limit) :
    (build entries).IsFiled limit where
  tokens := pairwise_token_foldr (pairwise_places _)
  rows b hb := by
    have hplaces : ∀ p ∈ b.positions, (b.token, p) ∈ placesOf (build entries).buckets :=
      fun p hp => mem_placesOf.mpr ⟨b, hb, rfl, hp⟩
    refine ⟨?_, fun p hp => ?_⟩
    · -- the places of one bucket are a part of all places, which are in order
      have hsub : (b.positions.map fun p => (b.token, p)).Sublist
          (placesOf (build entries).buckets) :=
        List.sublist_flatten_of_mem (List.mem_map_of_mem hb)
      have hordered : (placesOf (build entries).buckets).Pairwise
          fun a b => placeLe a b ∧ a ≠ b := by
        simp only [build, bucketsOf, placesOf_foldr]
        exact pairwise_places _
      refine (List.pairwise_map.mp (hordered.sublist hsub)).imp ?_
      rintro p q ⟨hle, hne⟩
      rcases placeLe_iff.mp hle with hlt | ⟨-, hle⟩
      · exact absurd hlt (UInt32.lt_irrefl _)
      · exact Nat.lt_of_le_of_ne hle fun e => hne (by rw [show p = q from e])
    · obtain ⟨entry, hentry, hplace⟩ := mem_placesOf_build.mp (hplaces p hp)
      rw [show p = entry.position from (mem_places.mp hplace).1]
      exact h entry hentry
  catchAll := by
    refine ⟨pairwise_lt_ascending _, fun p hp => ?_⟩
    obtain ⟨entry, hentry, hplace⟩ := mem_catchAll_build.mp hp
    rw [show p = entry.position from (mem_places.mp hplace).1]
    exact h entry hentry

/-- **What is a candidate**: the position of an entry that is filed without a token, or under one
that is looked up. -/
theorem mem_candidates_build {position : Nat} :
    position ∈ (build entries).candidates tokens
      ↔ ∃ entry ∈ entries, entry.position = position ∧
        (entry.groups = [] ∨ ∃ group ∈ entry.groups,
          ∀ t, rarest? (countsOf entries) group = some t → t ∈ tokens) := by
  have htokens : (build entries).buckets.Pairwise (·.token < ·.token) :=
    pairwise_token_foldr (pairwise_places _)
  rw [mem_candidates]
  simp only [mem_positions_iff htokens, mem_placesOf_build, mem_catchAll_build, mem_places]
  -- a group without a token is filed in the catch-all, any other one under its rarest token
  constructor
  · rintro (⟨t, ht, entry, hentry, rfl, hplace⟩ | ⟨entry, hentry, rfl, hplace⟩)
    · rcases hplace with ⟨-, habsurd⟩ | ⟨group, hgroup, hrarest⟩
      · exact absurd habsurd (by simp)
      · refine ⟨entry, hentry, rfl, .inr ⟨group, hgroup, fun t' ht' => ?_⟩⟩
        rw [hrarest] at ht'
        exact Option.some.inj ht' ▸ ht
    · rcases hplace with ⟨hgroups, -⟩ | ⟨group, hgroup, hrarest⟩
      · exact ⟨entry, hentry, rfl, .inl hgroups⟩
      · refine ⟨entry, hentry, rfl, .inr ⟨group, hgroup, fun t' ht' => ?_⟩⟩
        rw [hrarest] at ht'
        exact absurd ht' (by simp)
  · rintro ⟨entry, hentry, rfl, hgroups | ⟨group, hgroup, hlooked⟩⟩
    · exact .inr ⟨entry, hentry, rfl, .inl ⟨hgroups, trivial⟩⟩
    · cases hrarest : rarest? (countsOf entries) group with
      | none => exact .inr ⟨entry, hentry, rfl, .inr ⟨group, hgroup, hrarest⟩⟩
      | some t =>
        exact .inl ⟨t, hlooked t hrarest, entry, hentry, rfl, .inr ⟨group, hgroup, hrarest⟩⟩

/-- **No group is missed** of which every token is looked up, whichever token it is filed under. -/
theorem mem_candidates_of_group (hentry : entry ∈ entries) {group : List UInt32}
    (hgroup : group ∈ entry.groups) (h : ∀ t ∈ group, t ∈ tokens) :
    entry.position ∈ (build entries).candidates tokens :=
  mem_candidates_build.mpr
    ⟨entry, hentry, rfl, .inr ⟨group, hgroup, fun t ht => h t (rarest?_mem ht)⟩⟩

end Build

end TokenIndex

end Blocklist
