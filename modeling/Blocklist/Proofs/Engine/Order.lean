import Blocklist.Proofs.Engine.Page
import Blocklist.Proofs.Engine.Policy
import Blocklist.Proofs.Index.Rarity
/-!
# Engine — the order of the filters

A filter is filed under the token of its that comes least often among all
filters of its index. Counting takes no note of the order, so a request
reaches the same filters in whatever order the list has them
(`reaches_of_perm`), and a page sees the same (`isSeen_of_perm`). Which of
several filters comes first decides on ids, redirects and the order of
lists, and on nothing else: main statement `order_irrelevant`.
-/

namespace Blocklist

variable {search : RegexSearch} {network network' filters filters' : List NetworkFilter}
variable {cosmetic cosmetic' : List CosmeticFilter} {r : Request}

/-! ## Rules that take no note of the order -/

theorem live_of_perm (h : filters.Perm filters') :
    (live search filters r).Perm (live search filters' r) :=
  h.filter _

/-- A request is blocked where some filter blocks it and none allows it. -/
theorem decision_scan (search : RegexSearch) (filters : List NetworkFilter) (r : Request) :
    (scan search filters r).decision
      = if (live search filters r).any NetworkFilter.blocks
          && !(live search filters r).any NetworkFilter.allows then .block else .allow := by
  have hany : ∀ p : NetworkFilter → Bool, (live search filters r).any p
      = ((live search filters r).find? p).isSome := fun p => by
    rw [Bool.eq_iff_iff, List.any_eq_true, List.find?_isSome]
  rw [scan, hany, hany]
  dsimp only
  cases (live search filters r).find? NetworkFilter.blocks with
  | none => rfl
  | some block => cases (live search filters r).find? NetworkFilter.allows <;> rfl

theorem decision_scan_of_perm (h : filters.Perm filters') :
    (scan search filters r).decision = (scan search filters' r).decision := by
  rw [decision_scan, decision_scan, (live_of_perm h).any_eq, (live_of_perm h).any_eq]

theorem addedPolicies_of_perm {live live' : List NetworkFilter} (h : live.Perm live') :
    (addedPolicies live).Perm (addedPolicies live') := by
  have hadds : NetworkFilter.addsAmong live = NetworkFilter.addsAmong live' := by
    funext f
    rw [NetworkFilter.addsAmong, NetworkFilter.addsAmong, h.any_eq]
  rw [List.perm_ext_iff_of_nodup (nodup_addedPolicies live) (nodup_addedPolicies live')]
  intro policy
  rw [mem_addedPolicies_iff, mem_addedPolicies_iff, hadds]
  simp only [h.mem_iff]

theorem scanPolicies_of_perm (h : filters.Perm filters') :
    (scanPolicies search filters r).Perm (scanPolicies search filters' r) := by
  have hlive : (regulating search filters r).Perm (regulating search filters' r) := h.filter _
  rw [scanPolicies, scanPolicies, hlive.any_eq]
  split
  · exact .refl _
  · exact addedPolicies_of_perm hlive

namespace Engine

variable {role : NetworkRole} {f : NetworkFilter} {domTokens : List String}

/-! ## What is counted -/

/-- The tokens that are counted for the index of a part. -/
theorem flatMap_networkEntries (role : NetworkRole) (network : List NetworkFilter) :
    (Indexes.networkEntries role network).flatMap (·.groups.flatten)
      = (network.filter (·.role? == some role)).flatMap (·.tokenGroups.flatten) := by
  conv_rhs => rw [← List.zipIdx_map_fst 0 network]
  rw [Indexes.networkEntries, List.filter_map, List.flatMap_map, List.flatMap_map]
  rfl

/-- The tokens that are counted for the index of the filters without a host of their own. -/
theorem flatMap_genericEntries (cosmetic : List CosmeticFilter) :
    (Indexes.genericEntries cosmetic).flatMap (·.groups.flatten)
      = (cosmetic.filter fun f => (Indexes.hostGroups? f).isNone).flatMap
        (·.tokenGroups.flatten) := by
  conv_rhs => rw [← List.zipIdx_map_fst 0 cosmetic]
  rw [Indexes.genericEntries, List.filter_map, List.flatMap_map, List.flatMap_map]
  rfl

/-! ## What is reached, and what is seen -/

theorem filedUnder_of_perm (h : network.Perm network') (role : NetworkRole) (f : NetworkFilter) :
    filedUnder network role f = filedUnder network' role f := by
  have hcounted : ((Indexes.networkEntries role network).flatMap (·.groups.flatten)).Perm
      ((Indexes.networkEntries role network').flatMap (·.groups.flatten)) := by
    rw [flatMap_networkEntries, flatMap_networkEntries]
    exact (h.filter _).flatMap_right _
  exact List.map_congr_left fun group _ => TokenIndex.rarest?_histogram_of_perm hcounted group

/-- **A request reaches the same filters**, in whatever order the list has them. -/
theorem reaches_of_perm (h : network.Perm network') (r : Request) (f : NetworkFilter) :
    reaches network r f = reaches network' r f := by
  simp only [reaches, filedUnder_of_perm h]

theorem reached_of_perm (h : network.Perm network') (r : Request) :
    (reached network r).Perm (reached network' r) := by
  rw [reached, reached, show reaches network r = reaches network' r from
    funext (reaches_of_perm h r)]
  exact h.filter _

/-- **A page sees the same filters**, in whatever order the list has them. -/
theorem isSeen_of_perm (h : cosmetic.Perm cosmetic') (domTokens : List String)
    (f : CosmeticFilter) : isSeen cosmetic domTokens f = isSeen cosmetic' domTokens f := by
  have hcounted : ((Indexes.genericEntries cosmetic).flatMap (·.groups.flatten)).Perm
      ((Indexes.genericEntries cosmetic').flatMap (·.groups.flatten)) := by
    rw [flatMap_genericEntries, flatMap_genericEntries]
    exact (h.filter _).flatMap_right _
  have hfiled : TokenIndex.rarest? (TokenIndex.countsOf (Indexes.genericEntries cosmetic))
      f.selectorTokens
        = TokenIndex.rarest? (TokenIndex.countsOf (Indexes.genericEntries cosmetic'))
      f.selectorTokens :=
    TokenIndex.rarest?_histogram_of_perm hcounted f.selectorTokens
  rw [isSeen, isSeen, isShown, isShown, hfiled]

/-- A filter that is acted on stays so in another order. -/
theorem IsLive.of_perm {host : List Char} {f : CosmeticFilter} (h : cosmetic.Perm cosmetic')
    (hlive : IsLive cosmetic host domTokens f) : IsLive cosmetic' host domTokens f where
  acts := hlive.acts
  admits := hlive.admits
  seen := isSeen_of_perm h domTokens f ▸ hlive.seen
  lasts u hu hunhide hadmits hseen :=
    hlive.lasts u (h.mem_iff.mpr hu) hunhide hadmits ((isSeen_of_perm h domTokens u).symm ▸ hseen)

/-! ## Verdicts -/

theorem mem_page_of_perm (h : cosmetic.Perm cosmetic') {host : String} {action : CosmeticAction}
    {selector : String}
    (hmem : selector ∈ ((Engine.build network cosmetic).page host domTokens).ofAction action) :
    selector ∈ ((Engine.build network' cosmetic').page host domTokens).ofAction action := by
  obtain ⟨f, hf, hlive, heffect⟩ := mem_ofAction_page_build.mp hmem
  exact mem_ofAction_page_build.mpr ⟨f, h.mem_iff.mp hf, hlive.of_perm h, heffect⟩

/-- **The order of the filters is irrelevant** to whether a request of any length goes ahead, to
which policies a document gets and to what is done to a page. -/
theorem order_irrelevant (search : RegexSearch) (hnetwork : network.Perm network')
    (hcosmetic : cosmetic.Perm cosmetic') :
    let e := Engine.build network cosmetic
    let e' := Engine.build network' cosmetic'
    (∀ r, (e.decideBy search r).decision = (e'.decideBy search r).decision) ∧
    (∀ r, e.policyBy? search r = joined? (e.policiesBy search r)
      ∧ e'.policyBy? search r = joined? (e'.policiesBy search r)
      ∧ (e.policiesBy search r).Perm (e'.policiesBy search r)) ∧
    ∀ host domTokens action selector,
      selector ∈ (e.page host domTokens).ofAction action
        ↔ selector ∈ (e'.page host domTokens).ofAction action := by
  intro e e'
  refine ⟨fun r => ?_, fun r => ?_, fun host domTokens action selector => ?_⟩
  · rw [decideBy_build_reached, decideBy_build_reached]
    exact decision_scan_of_perm (reached_of_perm hnetwork r)
  · refine ⟨policyBy?_eq search e r, policyBy?_eq search e' r, ?_⟩
    rw [policiesBy_build, policiesBy_build]
    exact scanPolicies_of_perm (reached_of_perm hnetwork r)
  · exact ⟨mem_page_of_perm hcosmetic, mem_page_of_perm hcosmetic.symm⟩

theorem order_irrelevant_reverse :
    let network := bannerFilters ++ policyFilters
    let e := Engine.build network advertFilters
    let e' := Engine.build network.reverse advertFilters.reverse
    network.Perm network.reverse ∧ advertFilters.Perm advertFilters.reverse
      ∧ (e.decideBy .compiled bannerRequest).decision
          = (e'.decideBy .compiled bannerRequest).decision
      ∧ (e.policiesBy .compiled policyRequest).Perm (e'.policiesBy .compiled policyRequest)
      ∧ (".ad" ∈ (e.page "www.example.com" ["ad"]).ofAction .hide
          ↔ ".ad" ∈ (e'.page "www.example.com" ["ad"]).ofAction .hide) := by
  intro network e e'
  have hnetwork : network.Perm network.reverse := (List.reverse_perm network).symm
  have hcosmetic : advertFilters.Perm advertFilters.reverse :=
    (List.reverse_perm advertFilters).symm
  obtain ⟨hdecision, hpolicies, hpage⟩ := order_irrelevant .compiled hnetwork hcosmetic
  exact ⟨hnetwork, hcosmetic, hdecision bannerRequest, (hpolicies policyRequest).2.2,
    hpage "www.example.com" ["ad"] .hide ".ad"⟩

end Engine

end Blocklist
