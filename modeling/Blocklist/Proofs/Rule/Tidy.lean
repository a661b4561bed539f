import Blocklist.Proofs.Hash.FilterId
import Blocklist.Proofs.Positions
import Blocklist.Rule.Tidy
/-!
# Rules — what tidying takes out

Tidying goes by ids. Main statement (`tidy_keeps`): a network filter stays
exactly where it is no badfilter, no badfilter targets its id, and none kept
before it has its id; a cosmetic filter stays where none kept before it has
its id. Filters that differ in one place only never share an id, but those
that join to the same text do, whatever their fields are
(`tidy_drops_other_content`).
-/

namespace Blocklist

namespace Tidy

/-! ## The first of each id -/

/-- **The first of each key is kept** of the members that satisfy `p` and whose keys are new. -/
theorem exists_keepsFirst_firstOfEach {α : Type} (key : α → UInt32) (p : α → Bool)
    (seen : Std.HashSet UInt32) (list : List α) :
    ∃ positions, KeepsFirst key (fun a => p a ∧ key a ∉ seen) list
      (firstOfEach key seen (list.filter p)) positions := by
  induction list generalizing seen with
  | nil => exact ⟨[], List.Pairwise.nil, rfl, by simp⟩
  | cons a list ih =>
    by_cases ha : p a ∧ key a ∉ seen
    · obtain ⟨positions, h⟩ := ih (seen.insert (key a))
      refine ⟨0 :: positions.map (· + 1), ?_⟩
      rw [List.filter_cons_of_pos ha.1, firstOfEach, if_neg (by simpa using ha.2)]
      refine KeepsFirst.cons_of_spared ha (h.congr fun b => ?_)
      simp only [Std.HashSet.mem_insert, beq_iff_eq, not_or]
      rw [← and_assoc, and_right_comm]
    · obtain ⟨positions, h⟩ := ih seen
      refine ⟨positions.map (· + 1), ?_⟩
      have hskip : firstOfEach key seen ((a :: list).filter p)
          = firstOfEach key seen (list.filter p) := by
        by_cases hp : p a
        · rw [List.filter_cons_of_pos hp, firstOfEach, if_pos]
          simpa [hp] using ha
        · rw [List.filter_cons_of_neg hp]
      rw [hskip]
      exact h.cons_of_not_spared ha

/-- The ids that are cancelled are those that some badfilter targets. -/
theorem mem_cancelledIds {network : List NetworkFilter} {id : UInt32} :
    id ∈ cancelledIds network ↔ ∃ b ∈ network, b.mask.has .badfilter ∧ b.targetId = id := by
  simp [cancelledIds, Std.HashSet.mem_ofList, and_assoc]

end Tidy

/-! ## What stays -/

/-- Whether two filters differ in one place only: in their masks, or in one character. -/
def NetworkFilter.DiffersOnce (f g : NetworkFilter) : Prop :=
  FilterId.DiffersOnce f.mask.word g.mask.word f.fields g.fields

/-- Whether two filters differ in one place only: in their masks, or in one character. -/
def CosmeticFilter.DiffersOnce (f g : CosmeticFilter) : Prop :=
  FilterId.DiffersOnce f.mask.word.toUInt32 g.mask.word.toUInt32
    [some f.selector, f.hostnames.map HostList.text]
    [some g.selector, g.hostnames.map HostList.text]

theorem exists_keepsFirst_network_tidy (network : List NetworkFilter)
    (cosmetic : List CosmeticFilter) :
    ∃ positions, KeepsFirst NetworkFilter.id
      (fun f => ¬ f.mask.has .badfilter ∧
        ∀ b ∈ network, b.mask.has .badfilter → b.targetId ≠ f.id)
      network (tidy network cosmetic).network positions := by
  obtain ⟨positions, h⟩ := Tidy.exists_keepsFirst_firstOfEach NetworkFilter.id
    (fun f => !f.mask.has .badfilter && !(Tidy.cancelledIds network).contains f.id) ∅ network
  have hlive : (tidy network cosmetic).network = Tidy.firstOfEach NetworkFilter.id ∅
      (network.filter fun f =>
        !f.mask.has .badfilter && !(Tidy.cancelledIds network).contains f.id) := by
    simp only [tidy, List.filter_filter, Bool.and_comm]
  rw [← hlive] at h
  refine ⟨positions, h.congr fun f => ?_⟩
  simp only [Std.HashSet.not_mem_empty, not_false_eq_true, and_true, Bool.and_eq_true,
    Bool.not_eq_true', Bool.not_eq_true, Std.HashSet.contains_eq_false_iff_not_mem,
    Tidy.mem_cancelledIds, not_exists, not_and]

theorem exists_keepsFirst_cosmetic_tidy (network : List NetworkFilter)
    (cosmetic : List CosmeticFilter) :
    ∃ positions, KeepsFirst CosmeticFilter.id (fun _ => True)
      cosmetic (tidy network cosmetic).cosmetic positions := by
  obtain ⟨positions, h⟩ :=
    Tidy.exists_keepsFirst_firstOfEach CosmeticFilter.id (fun _ => true) ∅ cosmetic
  rw [List.filter_eq_self.mpr fun _ _ => rfl] at h
  exact ⟨positions, h.congr fun f => by simp⟩

/-- **Tidying takes out what shares an id, and nothing else.** A network filter stays exactly where
it is no badfilter, no badfilter of the list targets its id, and no filter kept before it has its
id; a cosmetic filter exactly where no filter kept before it has its id. Filters that differ in one
place only never stand for one another. -/
theorem tidy_keeps (network : List NetworkFilter) (cosmetic : List CosmeticFilter) :
    (∃ positions, KeepsFirst NetworkFilter.id
      (fun f => ¬ f.mask.has .badfilter ∧
        ∀ b ∈ network, b.mask.has .badfilter → b.targetId ≠ f.id)
      network (tidy network cosmetic).network positions) ∧
    (∃ positions, KeepsFirst CosmeticFilter.id (fun _ => True)
      cosmetic (tidy network cosmetic).cosmetic positions) ∧
    (∀ f g : NetworkFilter, f.DiffersOnce g → f.id ≠ g.id) ∧
    (∀ f g : CosmeticFilter, f.DiffersOnce g → f.id ≠ g.id) :=
  ⟨exists_keepsFirst_network_tidy network cosmetic,
    exists_keepsFirst_cosmetic_tidy network cosmetic,
    fun _ _ h => FilterId.ofFields_ne_of_differsOnce h,
    fun _ _ h => FilterId.ofFields_ne_of_differsOnce h⟩

/-- A filter for the pages of `bc.com`. -/
def pathFilter : NetworkFilter :=
  { mask := .make .full [.firstParty, .thirdParty], pattern := "/a", domains := some ⟨"bc.com"⟩ }

/-- One that differs from it in a character. -/
def otherPathFilter : NetworkFilter :=
  { mask := .make .full [.firstParty, .thirdParty], pattern := "/b", domains := some ⟨"bc.com"⟩ }

/-- One for the pages of `c.com`, with a path that is longer by a letter. -/
def longerPathFilter : NetworkFilter :=
  { mask := .make .full [.firstParty, .thirdParty], pattern := "/ab", domains := some ⟨"c.com"⟩ }

theorem tidy_keeps_pathFilters :
    (∃ positions, KeepsFirst NetworkFilter.id
      (fun f => ¬ f.mask.has .badfilter ∧
        ∀ b ∈ [pathFilter, otherPathFilter], b.mask.has .badfilter → b.targetId ≠ f.id)
      [pathFilter, otherPathFilter] (tidy [pathFilter, otherPathFilter] []).network positions) ∧
    pathFilter.id ≠ otherPathFilter.id ∧
    CosmeticFilter.id { mask := .make [], selector := ".ad" }
      ≠ CosmeticFilter.id { mask := .make [.unhide], selector := ".ad" } := by
  obtain ⟨hkeeps, -, hnetwork, hcosmetic⟩ := tidy_keeps [pathFilter, otherPathFilter] []
  refine ⟨hkeeps, hnetwork _ _ (.inr ⟨rfl, ['/'], 'a', 'b', "bc.com".toList, ?_⟩),
    hcosmetic _ _ (.inl ⟨by decide, rfl⟩)⟩
  decide +kernel

/-! ## Texts that join alike -/

theorem network_tidy_pathFilters :
    (tidy [pathFilter, longerPathFilter] []).network = [pathFilter] := by
  have hpath : pathFilter.mask.has .badfilter = false := by decide
  have hlonger : longerPathFilter.mask.has .badfilter = false := by decide
  have hid : longerPathFilter.id = pathFilter.id := by decide
  simp [tidy, Tidy.cancelledIds, Tidy.firstOfEach, hpath, hlonger, hid]

/-- **A filter can go that nothing in the list equals**: two filters that join to the same text have
the same id, and the first stays alone. -/
theorem tidy_drops_other_content :
    ¬ ∀ (network : List NetworkFilter) (cosmetic : List CosmeticFilter), ∀ f ∈ network,
      f ∉ (tidy network cosmetic).network → f.mask.has .badfilter
        ∨ (∃ b ∈ network, b.mask.has .badfilter
          ∧ { b with mask := b.mask.without .badfilter }.sameContent f)
        ∨ ∃ g ∈ (tidy network cosmetic).network, g.sameContent f := by
  intro h
  have h := h [pathFilter, longerPathFilter] [] longerPathFilter (by simp)
  rw [network_tidy_pathFilters] at h
  revert h
  decide

end Blocklist
