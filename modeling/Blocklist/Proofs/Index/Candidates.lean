import Mathlib.Logic.ExistsUnique
import Blocklist.Proofs.Index.Rarity
/-!
# Index — what is filed under which token

A group of tokens is filed under the first of its rarest tokens, and under no
other (`rarest?_eq_some_iff`), so each bucket and the catch-all are told by
the groups alone (`mem_positions_build_iff`, `mem_catchAll_build_iff`).

Main statement: the candidates for some tokens lie between the entries with a
group that is looked up as a whole and those with a group that is looked up
in part (`candidates_build`).
-/

namespace Blocklist

namespace TokenIndex

variable {entries : List IndexEntry} {entry : IndexEntry} {cost : UInt32 → UInt32}
variable {counts : Std.HashMap UInt32 UInt32} {group : List UInt32} {token other : UInt32}
variable {position : Nat}

/-! ## The rarest token of a group -/

/-- The first of the rarest tokens of a group: those before it cost more, and those behind it do
not cost less. -/
def IsRarest {α : Type} [LE α] [LT α] (cost : UInt32 → α) (group : List UInt32) (token : UInt32) :
    Prop :=
  ∃ before behind, group = before ++ token :: behind
    ∧ (∀ t ∈ before, cost token < cost t) ∧ ∀ t ∈ behind, cost token ≤ cost t

theorem IsRarest.mem (h : IsRarest cost group token) : token ∈ group := by
  obtain ⟨before, behind, rfl, -, -⟩ := h
  exact List.mem_append_right _ List.mem_cons_self

theorem IsRarest.le (h : IsRarest cost group token) (hother : other ∈ group) :
    cost token ≤ cost other := by
  obtain ⟨before, behind, rfl, hbefore, hbehind⟩ := h
  rcases List.mem_append.mp hother with hother | hother
  · exact UInt32.le_of_lt (hbefore other hother)
  · rcases List.mem_cons.mp hother with rfl | hother
    · exact UInt32.le_refl _
    · exact hbehind other hother

/-- A group has one such token at most. -/
theorem IsRarest.unique (h : IsRarest cost group token) (hother : IsRarest cost group other) :
    token = other := by
  have hle := h.le hother.mem
  have hge := hother.le h.mem
  obtain ⟨before, behind, rfl, hbefore, -⟩ := h
  obtain ⟨before', behind', hgroup, hbefore', -⟩ := hother
  -- one that stands before the other would cost more than it
  rcases List.append_eq_append_iff.mp hgroup with ⟨between, rfl, hrest⟩ | ⟨between, rfl, hrest⟩
  · cases between with
    | nil => exact (List.cons.inj hrest).1
    | cons first between =>
      obtain ⟨rfl, -⟩ := List.cons.inj hrest
      have hlt := hbefore' token (List.mem_append_right _ List.mem_cons_self)
      exact absurd hlt (UInt32.not_lt.mpr hle)
  · cases between with
    | nil => exact (List.cons.inj hrest).1.symm
    | cons first between =>
      obtain ⟨rfl, -⟩ := List.cons.inj hrest
      have hlt := hbefore other (List.mem_append_right _ List.mem_cons_self)
      exact absurd hlt (UInt32.not_lt.mpr hge)

theorem isRarest_of_rarest? (h : rarest? counts group = some token) :
    IsRarest (weight counts) group token := by
  induction group generalizing token with
  | nil => exact absurd h.symm (Option.some_ne_none token)
  | cons first group ih =>
    rw [rarest?, List.minOn?_cons] at h
    cases hrest : List.minOn? (weight counts) group with
    | none =>
      rw [hrest] at h
      obtain rfl : first = token := Option.some.inj h
      have hnil : group = [] := by
        by_contra hne
        rw [List.minOn?_eq_some_minOn hne] at hrest
        exact Option.some_ne_none _ hrest
      exact ⟨[], [], by rw [hnil]; rfl, by simp, by simp⟩
    | some best =>
      rw [hrest] at h
      have hbest := ih hrest
      by_cases hle : weight counts first ≤ weight counts best
      · obtain rfl : first = token := by
          rw [Option.elim_some, minOn_eq_left hle] at h
          exact Option.some.inj h
        exact ⟨[], group, rfl, by simp, fun t ht => UInt32.le_trans hle (hbest.le ht)⟩
      · obtain rfl : best = token := by
          rw [Option.elim_some, minOn_eq_right hle] at h
          exact Option.some.inj h
        obtain ⟨before, behind, rfl, hbefore, hbehind⟩ := hbest
        exact ⟨first :: before, behind, rfl,
          List.forall_mem_cons.mpr ⟨UInt32.not_le.mp hle, hbefore⟩, hbehind⟩

theorem rarest?_eq_none_iff : rarest? counts group = none ↔ group = [] := by
  rw [rarest?, ← Option.not_isSome_iff_eq_none, List.isSome_minOn?_iff, Decidable.not_not]

/-- **A group is filed under the first of its rarest tokens.** -/
theorem rarest?_eq_some_iff :
    rarest? counts group = some token ↔ IsRarest (weight counts) group token := by
  refine ⟨isRarest_of_rarest?, fun h => ?_⟩
  cases hrarest : rarest? counts group with
  | none =>
    rw [rarest?_eq_none_iff.mp hrarest] at h
    exact absurd h.mem List.not_mem_nil
  | some best => rw [(isRarest_of_rarest? hrarest).unique h]

/-! ## Buckets -/

/-- How common a token is among some entries, in words: how often it comes in their groups, with a
penalty for common words. -/
def costIn (entries : List IndexEntry) (token : UInt32) : UInt32 :=
  let n := .ofNat ((entries.flatMap fun entry => entry.groups.flatten).count token)
  if token ∈ commonTokens then penalised n else n

/-- How common a token is among some entries. -/
def frequencyIn (entries : List IndexEntry) (token : UInt32) : Nat :=
  frequency (entries.flatMap fun entry => entry.groups.flatten) token

theorem weight_countsOf (entries : List IndexEntry) :
    weight (countsOf entries) = costIn entries := by
  funext token
  simp only [weight, countsOf, getD_histogram, costIn, List.contains_iff_mem]

/-- **The rarest token is the rarest indeed** in a group whose tokens come no more often than words
can tell. -/
theorem isRarest_costIn_iff (h : ∀ t ∈ group, frequencyIn entries t < UInt32.size) :
    IsRarest (costIn entries) group token ↔ IsRarest (frequencyIn entries) group token := by
  have hcost : ∀ t ∈ group, (costIn entries t).toNat = frequencyIn entries t := fun t ht => by
    rw [← weight_countsOf]
    exact toNat_weight_histogram (h t ht)
  refine exists_congr fun before => exists_congr fun behind => and_congr_right ?_
  rintro rfl
  have htoken := hcost token (List.mem_append_right _ List.mem_cons_self)
  refine and_congr (forall₂_congr fun t ht => ?_) (forall₂_congr fun t ht => ?_)
  · rw [UInt32.lt_iff_toNat_lt, htoken, hcost t (List.mem_append_left _ ht)]
  · rw [UInt32.le_iff_toNat_le, htoken,
      hcost t (List.mem_append_right _ (List.mem_cons_of_mem _ ht))]

/-- **What is filed under a token**: the positions of the entries with a group of which it is the
rarest. -/
theorem mem_positions_build_iff : position ∈ (build entries).positions token
    ↔ ∃ entry ∈ entries, entry.position = position
      ∧ ∃ group ∈ entry.groups, IsRarest (costIn entries) group token := by
  have htokens : (build entries).buckets.Pairwise (·.token < ·.token) :=
    pairwise_token_foldr (pairwise_places _)
  simp only [mem_positions_iff htokens, mem_placesOf_build, mem_places, rarest?_eq_some_iff,
    weight_countsOf, reduceCtorEq, and_false, false_or, eq_comm (a := position)]

/-- **What is looked at for every token**: the positions of the entries without a token in one of
their groups, or without a group. -/
theorem mem_catchAll_build_iff : position ∈ (build entries).catchAll
    ↔ ∃ entry ∈ entries, entry.position = position ∧ (entry.groups = [] ∨ [] ∈ entry.groups) := by
  simp only [mem_catchAll_build, mem_places, rarest?_eq_none_iff, and_true, exists_eq_right,
    eq_comm (a := position)]

/-! ## Looking up -/

/-- **No entry is missed and no stranger is found.** The candidates ascend. An entry without groups,
with an empty one, or with one of which every token is looked up is a candidate; and every candidate
has an entry without groups, with an empty one, or with one of which some token is looked up. Each
group is filed under the first of its rarest tokens, and a token has nothing else filed under it.
How rare a token is is told by a word, and truly as long as a word can tell. -/
theorem candidates_build (entries : List IndexEntry) (tokens : List UInt32) :
    ((build entries).candidates tokens).Pairwise (· < ·)
      ∧ (∀ entry ∈ entries,
          (entry.groups = [] ∨ [] ∈ entry.groups
            ∨ ∃ group ∈ entry.groups, ∀ t ∈ group, t ∈ tokens) →
          entry.position ∈ (build entries).candidates tokens)
      ∧ (∀ position ∈ (build entries).candidates tokens, ∃ entry ∈ entries,
          entry.position = position ∧ (entry.groups = [] ∨ [] ∈ entry.groups
            ∨ ∃ group ∈ entry.groups, ∃ t ∈ group, t ∈ tokens))
      ∧ (∀ entry ∈ entries, ∀ group ∈ entry.groups, group ≠ [] →
          ∃! token, IsRarest (costIn entries) group token
            ∧ entry.position ∈ (build entries).positions token)
      ∧ (∀ token position, position ∈ (build entries).positions token ↔
          ∃ entry ∈ entries, entry.position = position
            ∧ ∃ group ∈ entry.groups, IsRarest (costIn entries) group token)
      ∧ ∀ group token, (∀ t ∈ group, frequencyIn entries t < UInt32.size) →
          (IsRarest (costIn entries) group token ↔ IsRarest (frequencyIn entries) group token) := by
  refine ⟨pairwise_candidates _ _, ?_, ?_, ?_, fun _ _ => mem_positions_build_iff,
    fun _ _ => isRarest_costIn_iff⟩
  · rintro entry hentry (hnone | hempty | ⟨group, hgroup, htokens⟩)
    · exact mem_candidates_build.mpr ⟨entry, hentry, rfl, .inl hnone⟩
    · exact mem_candidates_of_group hentry hempty fun t ht => absurd ht List.not_mem_nil
    · exact mem_candidates_of_group hentry hgroup htokens
  · intro position hposition
    rcases mem_candidates.mp hposition with ⟨t, ht, hfiled⟩ | hall
    · obtain ⟨entry, hentry, hposition, group, hgroup, hrarest⟩ := mem_positions_build_iff.mp hfiled
      exact ⟨entry, hentry, hposition, .inr (.inr ⟨group, hgroup, t, hrarest.mem, ht⟩)⟩
    · obtain ⟨entry, hentry, hposition, hgroups⟩ := mem_catchAll_build_iff.mp hall
      exact ⟨entry, hentry, hposition, hgroups.imp_right .inl⟩
  · intro entry hentry group hgroup hne
    have hsome : rarest? (countsOf entries) group ≠ none :=
      fun hnone => hne (rarest?_eq_none_iff.mp hnone)
    obtain ⟨token, htoken⟩ := Option.ne_none_iff_exists'.mp hsome
    rw [rarest?_eq_some_iff, weight_countsOf] at htoken
    exact ⟨token,
      ⟨htoken, mem_positions_build_iff.mpr ⟨entry, hentry, rfl, group, hgroup, htoken⟩⟩,
      fun other hother => hother.1.unique htoken⟩

/-- Of two tokens that come twice each, the first is the one to file under; both of them looked up
find the entry. -/
theorem candidates_build_tie :
    let entries : List IndexEntry := [⟨4, [[10, 20]]⟩, ⟨1, []⟩, ⟨2, [[20], [10]]⟩]
    IsRarest (frequencyIn entries) [10, 20] 10 ∧ 4 ∈ (build entries).positions 10
      ∧ 4 ∈ (build entries).candidates [20, 10]
      ∧ ((build entries).candidates [20]).Pairwise (· < ·) := by
  intro entries
  have hfrequency : frequencyIn entries 10 = 2 ∧ frequencyIn entries 20 = 2 := by decide +kernel
  have hrarest : IsRarest (frequencyIn entries) [10, 20] 10 :=
    ⟨[], [20], rfl, by simp, by simp [hfrequency]⟩
  obtain ⟨-, hfound, -, -, hfiled, htrue⟩ := candidates_build entries [20, 10]
  have hcost := (htrue [10, 20] 10 (by simp [hfrequency, UInt32.size])).mpr hrarest
  refine ⟨hrarest, ?_, ?_, (candidates_build entries [20]).1⟩
  · exact (hfiled 10 4).mpr ⟨⟨4, [[10, 20]]⟩, by decide, rfl, [10, 20], by decide, hcost⟩
  · exact hfound ⟨4, [[10, 20]]⟩ (by decide) (.inr (.inr ⟨[10, 20], by decide, by simp⟩))

end TokenIndex

end Blocklist
