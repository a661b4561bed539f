import Blocklist.Proofs.Rule.Tidy
/-!
# Rules — what a tidied list is

A filter stays by where it stands: where it is the first of its id, among
those that are no badfilters and that none targets. Together with what is
counted this leaves nothing open: a list is tidied if it has these
properties, and tidying gives the only such list (`isTidied_iff`). What it
gives has no badfilters and no id twice, and such a list is left alone
(`IsTidy.tidy_eq`), so to tidy again changes nothing. Main statement:
`isTidied_iff_and_tidy_tidy`.
-/

namespace Blocklist

/-! ## Counting -/

section Counting

variable {α β : Type} {key : α → β} {spared : α → Prop} {list : List α} {i : Nat}

/-- What is sifted out is counted by what is missing. -/
theorem length_sub_length_filter_not (p : α → Bool) (list : List α) :
    list.length - (list.filter fun a => !p a).length = list.countP p := by
  have htotal : list.length = list.countP p + list.countP fun a => !p a := by
    simpa only [Bool.not_eq_true, Bool.decide_eq_false] using
      List.length_eq_countP_add_countP p (l := list)
  rw [← List.countP_eq_length_filter]
  omega

/-- Where no key comes twice and all is spared, each member is the first of its key. -/
theorem isFirst_iff_of_nodup (hnodup : (list.map key).Nodup) (hspared : ∀ a ∈ list, spared a) :
    IsFirst key spared list i ↔ i < list.length := by
  constructor
  · rintro ⟨a, ha, -⟩
    exact (List.getElem?_eq_some_iff.mp ha).1
  · intro hi
    refine ⟨list[i], List.getElem?_eq_getElem hi, hspared _ (List.getElem_mem hi), ?_⟩
    intro j hj b hb _ hkey
    obtain ⟨hjlt, rfl⟩ := List.getElem?_eq_some_iff.mp hb
    exact List.pairwise_iff_getElem.mp (List.pairwise_map.mp hnodup) j i hjlt hi hj hkey

theorem isSelection_self (list : List α) : IsSelection (· < list.length) list list := by
  refine ⟨List.range list.length, List.pairwise_lt_range, fun i => List.mem_range, ?_⟩
  exact List.ext_getElem (by simp) (by simp)

/-- The first of each key are a part of the list. -/
theorem Tidy.firstOfEach_sublist (key : α → UInt32) (seen : Std.HashSet UInt32) (list : List α) :
    (firstOfEach key seen list).Sublist list := by
  induction list generalizing seen with
  | nil => exact List.Sublist.refl _
  | cons a list ih =>
    rw [firstOfEach]
    split
    · exact (ih seen).cons a
    · exact (ih _).cons_cons a

end Counting

/-! ## Tidied lists -/

attribute [ext] TidyCounts TidyList

variable {network : List NetworkFilter} {cosmetic : List CosmeticFilter} {t : TidyList}

/-- Whether a badfilter of the list targets a filter. -/
def NetworkFilter.isTargetedIn (network : List NetworkFilter) (f : NetworkFilter) : Bool :=
  network.any fun b => b.mask.has .badfilter && b.targetId == f.id

/-- Whether a filter is no badfilter, and none of the list targets it. -/
def NetworkFilter.lastsIn (network : List NetworkFilter) (f : NetworkFilter) : Bool :=
  !f.mask.has .badfilter && !f.isTargetedIn network

theorem Tidy.contains_cancelledIds (network : List NetworkFilter) (f : NetworkFilter) :
    (cancelledIds network).contains f.id = f.isTargetedIn network := by
  rw [Bool.eq_iff_iff, Std.HashSet.contains_iff_mem, mem_cancelledIds,
    NetworkFilter.isTargetedIn, List.any_eq_true]
  simp only [Bool.and_eq_true, beq_iff_eq]

/-- What a list is that was made of these filters by tidying. -/
structure IsTidied (network : List NetworkFilter) (cosmetic : List CosmeticFilter)
    (t : TidyList) : Prop where
  /-- Of the network filters that last, the first of each id are left, in order. -/
  keepsNetwork : IsSelection (IsFirst NetworkFilter.id (·.lastsIn network) network)
    network t.network
  /-- Of the cosmetic filters, the first of each id are left, in order. -/
  keepsCosmetic : IsSelection (IsFirst CosmeticFilter.id (fun _ => True) cosmetic)
    cosmetic t.cosmetic
  /-- All filters are counted before. -/
  before : t.counts.before = network.length + cosmetic.length
  /-- Those that are left are counted after. -/
  after : t.counts.after = t.network.length + t.cosmetic.length
  /-- The badfilters are counted. -/
  badfilters : t.counts.badfilters = network.countP (·.mask.has .badfilter)
  /-- The filters that they cancel are counted, themselves apart. -/
  cancelled : t.counts.cancelled
    = network.countP fun f => !f.mask.has .badfilter && f.isTargetedIn network
  /-- The counts account for every filter. -/
  total : t.counts.before
    = t.counts.after + t.counts.badfilters + t.counts.cancelled + t.counts.repeated

/-- What tidying gives is tidied. -/
theorem isTidied_tidy (network : List NetworkFilter) (cosmetic : List CosmeticFilter) :
    IsTidied network cosmetic (tidy network cosmetic) where
  keepsNetwork := by
    obtain ⟨positions, h⟩ := exists_keepsFirst_network_tidy network cosmetic
    refine (h.congr fun f => ?_).isSelection
    simp only [NetworkFilter.lastsIn, NetworkFilter.isTargetedIn, Bool.and_eq_true,
      Bool.not_eq_true', Bool.not_eq_true, List.any_eq_false, beq_iff_eq, not_and, ne_eq]
  keepsCosmetic := by
    obtain ⟨positions, h⟩ := exists_keepsFirst_cosmetic_tidy network cosmetic
    exact h.isSelection
  before := rfl
  after := rfl
  badfilters := length_sub_length_filter_not _ network
  cancelled := by
    simp only [tidy]
    rw [length_sub_length_filter_not, List.countP_filter]
    simp only [Tidy.contains_cancelledIds, Bool.and_comm]
  total := by
    have hlasting := List.length_filter_le (fun f => !f.mask.has .badfilter) network
    have hlive := List.length_filter_le (fun f => !(Tidy.cancelledIds network).contains f.id)
      (network.filter fun f => !f.mask.has .badfilter)
    have hnetwork := (Tidy.firstOfEach_sublist NetworkFilter.id ∅
      ((network.filter fun f => !f.mask.has .badfilter).filter
        fun f => !(Tidy.cancelledIds network).contains f.id)).length_le
    have hcosmetic := (Tidy.firstOfEach_sublist CosmeticFilter.id ∅ cosmetic).length_le
    simp only [tidy]
    omega

/-- **A list is tidied if tidying gives it**, and no other list is. -/
theorem isTidied_iff : IsTidied network cosmetic t ↔ t = tidy network cosmetic := by
  refine ⟨fun h => ?_, fun h => h ▸ isTidied_tidy network cosmetic⟩
  have h' := isTidied_tidy network cosmetic
  have hnetwork := h.keepsNetwork.unique h'.keepsNetwork
  have hcosmetic := h.keepsCosmetic.unique h'.keepsCosmetic
  have hbefore := h.before.trans h'.before.symm
  have hbadfilters := h.badfilters.trans h'.badfilters.symm
  have hcancelled := h.cancelled.trans h'.cancelled.symm
  have hafter : t.counts.after = (tidy network cosmetic).counts.after := by
    rw [h.after, h'.after, hnetwork, hcosmetic]
  have hrepeated : t.counts.repeated = (tidy network cosmetic).counts.repeated := by
    have htotal := h.total
    have htotal' := h'.total
    omega
  exact TidyList.ext hnetwork hcosmetic
    (TidyCounts.ext hbefore hafter hrepeated hbadfilters hcancelled)

/-! ## Tidying again -/

/-- Filters among which none cancels or repeats another. -/
structure IsTidy (network : List NetworkFilter) (cosmetic : List CosmeticFilter) : Prop where
  /-- None is a badfilter. -/
  lasts : ∀ f ∈ network, ¬ f.mask.has .badfilter
  /-- No two network filters have one id. -/
  nodupNetwork : (network.map NetworkFilter.id).Nodup
  /-- No two cosmetic filters have one id. -/
  nodupCosmetic : (cosmetic.map CosmeticFilter.id).Nodup

/-- What tidying gives is tidy. -/
theorem isTidy_tidy (network : List NetworkFilter) (cosmetic : List CosmeticFilter) :
    IsTidy (tidy network cosmetic).network (tidy network cosmetic).cosmetic := by
  obtain ⟨positions, hnetwork⟩ := exists_keepsFirst_network_tidy network cosmetic
  obtain ⟨positions', hcosmetic⟩ := exists_keepsFirst_cosmetic_tidy network cosmetic
  exact ⟨fun f hf => (hnetwork.of_mem hf).2.1, hnetwork.nodup, hcosmetic.nodup⟩

/-- **What is tidy is left alone.** -/
theorem IsTidy.tidy_eq (h : IsTidy network cosmetic) :
    tidy network cosmetic = ⟨network, cosmetic,
      ⟨network.length + cosmetic.length, network.length + cosmetic.length, 0, 0, 0⟩⟩ := by
  have hbadfilter : ∀ f ∈ network, f.mask.has .badfilter = false :=
    fun f hf => Bool.eq_false_iff.mpr (h.lasts f hf)
  have htargeted : ∀ f : NetworkFilter, f.isTargetedIn network = false := by
    intro f
    rw [NetworkFilter.isTargetedIn, List.any_eq_false]
    intro b hb
    rw [hbadfilter b hb]
    exact Bool.false_ne_true
  have hlasts : ∀ f ∈ network, f.lastsIn network := by
    intro f hf
    rw [NetworkFilter.lastsIn, hbadfilter f hf, htargeted f]
    rfl
  refine (isTidied_iff.mp ?_).symm
  exact {
    keepsNetwork := by
      rw [show IsFirst NetworkFilter.id (·.lastsIn network) network = (· < network.length) from
        funext fun i => propext (isFirst_iff_of_nodup h.nodupNetwork hlasts)]
      exact isSelection_self network
    keepsCosmetic := by
      rw [show IsFirst CosmeticFilter.id (fun _ => True) cosmetic = (· < cosmetic.length) from
        funext fun i => propext (isFirst_iff_of_nodup h.nodupCosmetic fun _ _ => trivial)]
      exact isSelection_self cosmetic
    before := rfl
    after := rfl
    badfilters := (List.countP_eq_zero.mpr fun f hf => by simp [hbadfilter f hf]).symm
    cancelled := (List.countP_eq_zero.mpr fun f _ => by simp [htargeted f]).symm
    total := rfl }

/-- **What tidying gives, and that once is enough.** Of the filters that last, the first of each id
stay, and the counts add up: a list is so exactly if tidying gives it. To tidy that list again
changes nothing and takes nothing out. -/
theorem isTidied_iff_and_tidy_tidy (network : List NetworkFilter)
    (cosmetic : List CosmeticFilter) :
    (∀ t, IsTidied network cosmetic t ↔ t = tidy network cosmetic) ∧
    let t := tidy network cosmetic
    tidy t.network t.cosmetic = { t with counts := ⟨t.counts.after, t.counts.after, 0, 0, 0⟩ } :=
  ⟨fun _ => isTidied_iff, (isTidy_tidy network cosmetic).tidy_eq⟩

end Blocklist
