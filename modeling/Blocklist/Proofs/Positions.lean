import Mathlib.Data.List.Pairwise
import Mathlib.Data.List.Sort
/-!
# Positions — what they fetch

What is chosen of a list is said by the positions at which it stands, in
ascending order. A choice that is sifted afterwards need not be exact: where
positions cover a selection, the selection comes out
(`filter_filterMap_getElem?_of_pairwise`). And of members that share a key,
the first may be kept alone (`KeepsFirst`): then no key is kept twice
(`KeepsFirst.nodup`), none is lost (`KeepsFirst.mem_map_iff`), and what is
kept is what stands first with its key (`KeepsFirst.isSelection`).
-/

namespace Blocklist

variable {α β : Type} {list : List α} {positions : List Nat} {p q : α → Bool}

/-! ## From a position on -/

theorem getElem?_of_drop_eq_cons {rest : List α} {place : Nat} {a : α}
    (h : list.drop place = a :: rest) : list[place]? = some a ∧ rest = list.drop (place + 1) := by
  constructor
  · rw [← List.head?_drop, h, List.head?_cons]
  · rw [← List.tail_drop, h, List.tail_cons]

/-- What is left of a list at its end is left from some position on. -/
theorem suffix_drop_iff {text : List α} {start : Nat} (hstart : start ≤ list.length) :
    text <:+ list.drop start ↔ ∃ i, start ≤ i ∧ i ≤ list.length ∧ text = list.drop i := by
  constructor
  · rintro ⟨front, hfront⟩
    have hlength := congrArg List.length hfront
    rw [List.length_append, List.length_drop] at hlength
    refine ⟨start + front.length, Nat.le_add_right .., by omega, ?_⟩
    rw [← List.drop_drop, ← hfront, List.drop_left]
  · rintro ⟨i, hi, -, rfl⟩
    exact List.drop_suffix_drop_left list hi

/-! ## Sifting -/

theorem filterMap_getElem?_range (list : List α) :
    (List.range list.length).filterMap (list[·]?) = list := by
  have hmap : (List.range list.length).map (list[·]?) = list.map some :=
    List.ext_getElem (by simp) (by simp)
  have hid := congrArg (List.filterMap id) hmap
  rwa [List.filterMap_map, List.filterMap_map, Function.id_comp, Function.id_comp,
    List.filterMap_some] at hid

/-- The members at some positions may be sifted before they are fetched. -/
theorem filter_filterMap_getElem? (list : List α) (positions : List Nat) (p : α → Bool) :
    (positions.filterMap (list[·]?)).filter p
      = (positions.filter fun i => (list[i]?).any p).filterMap (list[·]?) := by
  rw [List.filter_filterMap, List.filterMap_filter]
  refine congrArg (List.filterMap · positions) (funext fun i => ?_)
  cases list[i]? with
  | none => rfl
  | some a => simp [Option.filter]

/-- **Ascending positions that cover a selection give that selection**, in the order of the list. -/
theorem filter_filterMap_getElem?_of_pairwise (hpositions : positions.Pairwise (· < ·))
    (h : ∀ i a, list[i]? = some a → (i ∈ positions ∧ p a ↔ q a)) :
    (positions.filterMap (list[·]?)).filter p = list.filter q := by
  have hsame : (positions.filter fun i => (list[i]?).any p)
      = (List.range list.length).filter fun i => (list[i]?).any q := by
    refine List.Pairwise.eq_of_mem_iff (hpositions.filter _) (List.pairwise_lt_range.filter _) ?_
    intro i
    rw [List.mem_filter, List.mem_filter, List.mem_range]
    cases hi : list[i]? with
    | none => simp
    | some a =>
      have hlt : i < list.length := (List.getElem?_eq_some_iff.mp hi).1
      simpa [hlt] using h i a hi
  rw [filter_filterMap_getElem?, hsame, ← filter_filterMap_getElem?, filterMap_getElem?_range]

/-! ## The first of each key -/

variable {key : α → β} {spared spared' : α → Prop} {a : α} {kept : List α}

/-- Which members of a list are kept: of those that are `spared`, the first with each key. -/
structure KeepsFirst (key : α → β) (spared : α → Prop) (list kept : List α)
    (positions : List Nat) : Prop where
  /-- The positions of what is kept are in order. -/
  ascending : positions.Pairwise (· < ·)
  /-- What is kept is what stands there. -/
  fetched : kept = positions.filterMap (list[·]?)
  /-- A member is kept where it is spared and none kept before it has its key. -/
  mem_iff : ∀ i a, list[i]? = some a → (i ∈ positions ↔
    spared a ∧ ∀ j ∈ positions, j < i → ∀ b, list[j]? = some b → key b ≠ key a)

/-- Positions in a list, where one member more comes first. -/
theorem filterMap_map_succ (a : α) (list : List α) (positions : List Nat) :
    (positions.map (· + 1)).filterMap ((a :: list)[·]?) = positions.filterMap (list[·]?) := by
  rw [List.filterMap_map]
  rfl

/-- A spared member at the front is kept, and takes its key away from what follows. -/
theorem KeepsFirst.cons_of_spared (ha : spared a)
    (h : KeepsFirst key (fun b => spared b ∧ key a ≠ key b) list kept positions) :
    KeepsFirst key spared (a :: list) (a :: kept) (0 :: positions.map (· + 1)) where
  ascending := by
    refine List.pairwise_cons.mpr ⟨fun j hj => ?_, ?_⟩
    · obtain ⟨i, -, rfl⟩ := List.mem_map.mp hj
      exact Nat.succ_pos i
    · exact List.pairwise_map.mpr (h.ascending.imp Nat.succ_lt_succ)
  fetched := by
    rw [List.filterMap_cons_some (f := ((a :: list)[·]?)) rfl, filterMap_map_succ, h.fetched]
  mem_iff i b hi := by
    cases i with
    | zero =>
      obtain rfl := Option.some.inj hi
      simp [ha]
    | succ i =>
      rw [List.getElem?_cons_succ] at hi
      have htail := h.mem_iff i b hi
      simp only [List.mem_cons, Nat.succ_ne_zero, List.mem_map, Nat.add_right_cancel_iff,
        exists_eq_right, false_or, htail, and_assoc, and_congr_right_iff]
      intro _
      constructor
      · rintro ⟨hne, hearlier⟩ j (rfl | ⟨j, hj, rfl⟩) hlt c hc
        · exact Option.some.inj hc ▸ hne
        · exact hearlier j hj (Nat.lt_of_succ_lt_succ hlt) c hc
      · intro hearlier
        refine ⟨hearlier 0 (.inl rfl) (Nat.succ_pos i) a rfl, fun j hj hlt c hc => ?_⟩
        exact hearlier (j + 1) (.inr ⟨j, hj, rfl⟩) (Nat.succ_lt_succ hlt) c hc

/-- A member at the front that is not spared is not kept, and changes nothing for the others. -/
theorem KeepsFirst.cons_of_not_spared (ha : ¬ spared a)
    (h : KeepsFirst key spared list kept positions) :
    KeepsFirst key spared (a :: list) kept (positions.map (· + 1)) where
  ascending := List.pairwise_map.mpr (h.ascending.imp Nat.succ_lt_succ)
  fetched := by rw [filterMap_map_succ, h.fetched]
  mem_iff i b hi := by
    cases i with
    | zero =>
      obtain rfl := Option.some.inj hi
      simp [ha]
    | succ i =>
      rw [List.getElem?_cons_succ] at hi
      simp only [List.mem_map, Nat.add_right_cancel_iff, exists_eq_right, h.mem_iff i b hi,
        and_congr_right_iff]
      intro _
      constructor
      · rintro hearlier _ ⟨j, hj, rfl⟩ hlt c hc
        exact hearlier j hj (Nat.lt_of_succ_lt_succ hlt) c hc
      · intro hearlier j hj hlt c hc
        exact hearlier (j + 1) ⟨j, hj, rfl⟩ (Nat.succ_lt_succ hlt) c hc

theorem KeepsFirst.congr (h : KeepsFirst key spared list kept positions)
    (hspared : ∀ a, spared a ↔ spared' a) : KeepsFirst key spared' list kept positions := by
  rwa [← funext fun a => propext (hspared a)]

/-- What is kept is spared, and stands in the list. -/
theorem KeepsFirst.of_mem (h : KeepsFirst key spared list kept positions) (ha : a ∈ kept) :
    a ∈ list ∧ spared a := by
  rw [h.fetched] at ha
  obtain ⟨i, hi, ha⟩ := List.mem_filterMap.mp ha
  exact ⟨List.mem_of_getElem? ha, ((h.mem_iff i a ha).mp hi).1⟩

/-- **No key is lost**: what is kept has the keys of all that is spared. -/
theorem KeepsFirst.mem_map_iff (h : KeepsFirst key spared list kept positions) {k : β} :
    k ∈ kept.map key ↔ ∃ a ∈ list, spared a ∧ key a = k := by
  rw [List.mem_map]
  constructor
  · rintro ⟨a, ha, rfl⟩
    exact ⟨a, (h.of_mem ha).1, (h.of_mem ha).2, rfl⟩
  · rintro ⟨a, ha, hspared, rfl⟩
    obtain ⟨i, hi⟩ := List.mem_iff_getElem?.mp ha
    have hkept : ∀ j ∈ positions, ∀ b, list[j]? = some b → b ∈ kept := by
      intro j hj b hb
      rw [h.fetched]
      exact List.mem_filterMap.mpr ⟨j, hj, hb⟩
    -- the member itself is kept, or one before it that has its key
    by_cases hmem : i ∈ positions
    · exact ⟨a, hkept i hmem a hi, rfl⟩
    · rw [h.mem_iff i a hi] at hmem
      push Not at hmem
      obtain ⟨j, hj, -, b, hb, hkey⟩ := hmem hspared
      exact ⟨b, hkept j hj b hb, hkey⟩

/-- **No key is kept twice.** -/
theorem KeepsFirst.nodup (h : KeepsFirst key spared list kept positions) :
    (kept.map key).Nodup := by
  rw [h.fetched, List.Nodup, List.pairwise_map, List.pairwise_filterMap]
  refine h.ascending.imp_of_mem fun {i j} hi hj hlt a ha b hb => ?_
  exact ((h.mem_iff j b hb).mp hj).2 i hi hlt a ha

/-! ## Chosen by position -/

/-- Whether a list has what stands at the `chosen` positions of another, in the same order. -/
def IsSelection (chosen : Nat → Prop) (list kept : List α) : Prop :=
  ∃ positions : List Nat, positions.Pairwise (· < ·) ∧ (∀ i, i ∈ positions ↔ chosen i) ∧
    positions.map (list[·]?) = kept.map some

/-- The positions leave nothing to choose. -/
theorem IsSelection.unique {chosen : Nat → Prop} {kept' : List α}
    (h : IsSelection chosen list kept) (h' : IsSelection chosen list kept') : kept = kept' := by
  obtain ⟨positions, hordered, hmem, hkept⟩ := h
  obtain ⟨positions', hordered', hmem', hkept'⟩ := h'
  have hsame : positions = positions' :=
    List.Pairwise.eq_of_mem_iff hordered hordered' fun i => (hmem i).trans (hmem' i).symm
  have hmap : kept.map some = kept'.map some := by rw [← hkept, ← hkept', hsame]
  exact List.map_injective_iff.mpr (Option.some_injective α) hmap

/-- Whether the first member of its key stands at a position, among those that are `spared`. -/
def IsFirst (key : α → β) (spared : α → Prop) (list : List α) (i : Nat) : Prop :=
  ∃ a, list[i]? = some a ∧ spared a ∧
    ∀ j < i, ∀ b, list[j]? = some b → spared b → key b ≠ key a

/-- To be the first of a key among what is kept is to be the first among all that is spared. -/
theorem KeepsFirst.mem_iff_isFirst (h : KeepsFirst key spared list kept positions) {i : Nat}
    (hi : list[i]? = some a) : i ∈ positions ↔ IsFirst key spared list i := by
  rw [h.mem_iff i a hi]
  constructor
  · rintro ⟨hspared, hearlier⟩
    refine ⟨a, hi, hspared, fun j hj b hb hbspared hkey => ?_⟩
    by_cases hmem : j ∈ positions
    · exact hearlier j hmem hj b hb hkey
    · -- the earlier member gave way to one before it that is kept and has the same key
      rw [h.mem_iff j b hb] at hmem
      push Not at hmem
      obtain ⟨j', hmem', hlt, b', hb', hkey'⟩ := hmem hbspared
      exact hearlier j' hmem' (Nat.lt_trans hlt hj) b' hb' (hkey'.trans hkey)
  · rintro ⟨a', ha', hspared, hearlier⟩
    obtain rfl := Option.some.inj (hi.symm.trans ha')
    refine ⟨hspared, fun j hmem hj b hb => ?_⟩
    exact hearlier j hj b hb ((h.mem_iff j b hb).mp hmem).1

theorem map_getElem?_filter (list : List α) (positions : List Nat) :
    (positions.filter (· < list.length)).map (list[·]?)
      = (positions.filterMap (list[·]?)).map some := by
  induction positions with
  | nil => rfl
  | cons i positions ih =>
    by_cases hi : i < list.length
    · rw [List.filter_cons_of_pos (by simpa using hi), List.map_cons, ih,
        List.filterMap_cons_some (List.getElem?_eq_getElem hi), List.map_cons,
        List.getElem?_eq_getElem hi]
    · rw [List.filter_cons_of_neg (by simpa using hi), ih,
        List.filterMap_cons_none (List.getElem?_eq_none (Nat.le_of_not_lt hi))]

/-- **What is kept is what stands first with its key**, in order. -/
theorem KeepsFirst.isSelection (h : KeepsFirst key spared list kept positions) :
    IsSelection (IsFirst key spared list) list kept := by
  refine ⟨positions.filter (· < list.length), h.ascending.filter _, fun i => ?_, ?_⟩
  · rw [List.mem_filter, decide_eq_true_eq]
    constructor
    · rintro ⟨hmem, hlt⟩
      exact (h.mem_iff_isFirst (List.getElem?_eq_getElem hlt)).mp hmem
    · intro hfirst
      obtain ⟨a, hi, -⟩ := id hfirst
      exact ⟨(h.mem_iff_isFirst hi).mpr hfirst, (List.getElem?_eq_some_iff.mp hi).1⟩
  · rw [map_getElem?_filter, h.fetched]

/-! ## Members that come again -/

/-- Members may be sifted before or after those that come again are left out. -/
theorem eraseDups_filter [BEq α] [LawfulBEq α] (p : α → Bool) (list : List α) :
    (list.filter p).eraseDups = list.eraseDups.filter p := by
  induction list generalizing p with
  | nil => rfl
  | cons a list ih =>
    rw [List.eraseDups_cons, ih]
    by_cases ha : p a
    · rw [List.filter_cons_of_pos ha, List.eraseDups_cons, List.filter_cons_of_pos ha,
        List.filter_filter, ih, List.filter_filter]
      simp only [Bool.and_comm]
    · rw [List.filter_cons_of_neg ha, List.filter_cons_of_neg ha, List.filter_filter, ih]
      -- the member at the front is none of those that satisfy `p`
      refine List.filter_congr fun b _ => ?_
      by_cases hb : b = a
      · simp [hb, ha]
      · simp [hb]

/-- **The keys of the members that satisfy `p`, each once, are those of the first of each.** -/
theorem exists_keepsFirst_eraseDups [BEq β] [LawfulBEq β] (key : α → β) (p : α → Bool)
    (list : List α) :
    ∃ kept positions, KeepsFirst key (p ·) list kept positions
      ∧ ((list.filter p).map key).eraseDups = kept.map key := by
  induction list generalizing p with
  | nil => exact ⟨[], [], ⟨List.Pairwise.nil, rfl, by simp⟩, rfl⟩
  | cons a list ih =>
    by_cases ha : p a
    · obtain ⟨kept, positions, h, hkept⟩ := ih fun b => p b && key b != key a
      refine ⟨a :: kept, 0 :: positions.map (· + 1), ?_, ?_⟩
      · refine KeepsFirst.cons_of_spared ha (h.congr fun b => ?_)
        rw [Bool.and_eq_true, bne_iff_ne, ne_comm]
      · rw [List.filter_cons_of_pos ha, List.map_cons, List.eraseDups_cons, List.map_cons, ← hkept,
          List.filter_map, List.filter_filter]
        simp only [Function.comp_def, Bool.and_comm, bne]
    · obtain ⟨kept, positions, h, hkept⟩ := ih p
      refine ⟨kept, positions.map (· + 1), h.cons_of_not_spared ha, ?_⟩
      rw [List.filter_cons_of_neg ha, hkept]

end Blocklist
