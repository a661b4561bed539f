import Blocklist.Proofs.Engine.Scan
/-!
# Engine — policies without an index

Which policies a document gets needs no index either: `scanPolicies` reads
them off the list of filters. An exception takes its policy away wherever it
stands, and one that names none takes away all of them. Main statement: an
engine built of the list adds the same policies (`policyBy_build`), each
once and in the order in which the filters name them, as long as the tokens
of the request fit.
-/

namespace Blocklist

/-! ## The rules -/

namespace NetworkFilter

/-- Whether a filter has a say in policies: it adds one or takes some away. -/
def regulates (f : NetworkFilter) : Bool := !f.mask.has .badfilter && f.mask.has .csp

/-- The policy that a filter names, the empty one where it names none. -/
def policy (f : NetworkFilter) : String := f.value.getD ""

/-- Whether a filter takes a policy away. -/
def revokes (policy : String) (f : NetworkFilter) : Bool :=
  f.mask.has .exception && f.policy == policy

/-- Whether a filter adds its policy, where these filters match: none of them takes it away. -/
def addsAmong (live : List NetworkFilter) (f : NetworkFilter) : Bool :=
  !f.mask.has .exception && f.policy != "" && !live.any (revokes f.policy)

end NetworkFilter

/-- The filters that match a request and have a say in policies, in order. -/
def regulating (search : RegexSearch) (filters : List NetworkFilter) (r : Request) :
    List NetworkFilter :=
  filters.filter fun f => f.regulates && f.isMatchBy search r

/-- The policies that filters add, each where it is named first. -/
def addedPolicies (live : List NetworkFilter) : List String :=
  ((live.filter (NetworkFilter.addsAmong live)).map NetworkFilter.policy).eraseDups

/-- The policies to add to a document by the whole list of filters. -/
def scanPolicies (search : RegexSearch) (filters : List NetworkFilter) (r : Request) :
    List String :=
  let live := regulating search filters r
  if !r.types.meets .documents || live.any (NetworkFilter.revokes "") then []
  else addedPolicies live

/-- Policies as they are sent, where there are any. -/
def joined? (policies : List String) : Option String :=
  if policies.isEmpty then none else some (String.intercalate "; " policies)

/-! ## What is added -/

variable {live : List NetworkFilter}

/-- **The policies that are added are the first of each**, in the order of the filters. -/
theorem exists_keepsFirst_addedPolicies (live : List NetworkFilter) :
    ∃ kept positions,
      KeepsFirst NetworkFilter.policy (NetworkFilter.addsAmong live ·) live kept positions
        ∧ addedPolicies live = kept.map NetworkFilter.policy :=
  exists_keepsFirst_eraseDups NetworkFilter.policy (NetworkFilter.addsAmong live) live

theorem mem_addedPolicies_iff {policy : String} :
    policy ∈ addedPolicies live ↔ ∃ f ∈ live, f.addsAmong live ∧ f.policy = policy := by
  obtain ⟨kept, positions, h, hkept⟩ := exists_keepsFirst_addedPolicies live
  rw [hkept, h.mem_map_iff]

theorem nodup_addedPolicies (live : List NetworkFilter) : (addedPolicies live).Nodup := by
  obtain ⟨kept, positions, h, hkept⟩ := exists_keepsFirst_addedPolicies live
  rw [hkept]
  exact h.nodup

example : addedPolicies [
    { mask := .make .full [.csp], pattern := "/a", value := some "font-src none" },
    { mask := .make .full [.csp], pattern := "/b", value := some "img-src none" },
    { mask := .make .full [.csp], pattern := "/c", value := some "font-src none" },
    { mask := .make .full [.csp, .exception], pattern := "/d", value := some "img-src none" }]
      = ["font-src none"] := by decide +kernel

namespace Engine

variable {search : RegexSearch} {network : List NetworkFilter} {r : Request}

/-! ## What an engine adds -/

theorem contains_map_value (policy : String) (live : List NetworkFilter) :
    ((live.filter (·.mask.has .exception)).map fun f => f.value.getD "").contains policy
      = live.any (NetworkFilter.revokes policy) := by
  rw [Bool.eq_iff_iff]
  simp [NetworkFilter.revokes, NetworkFilter.policy, and_assoc]

/-- The policies of some filters are those that they add, unless one of them takes away all. -/
theorem policies_eq (live : List NetworkFilter) :
    policies live = if live.any (NetworkFilter.revokes "") then [] else addedPolicies live := by
  have hempty : ∀ policy : String, (!policy.isEmpty) = (policy != "") := by
    intro policy
    rw [Bool.eq_iff_iff]
    simp
  have hadds : (fun f : NetworkFilter =>
      !live.any (NetworkFilter.revokes (f.value.getD "")) && f.value.getD "" != ""
        && !f.mask.has .exception) = NetworkFilter.addsAmong live := by
    funext f
    rw [Bool.and_assoc, Bool.and_comm, Bool.and_comm (_ != "")]
    rfl
  unfold policies
  dsimp only
  simp only [contains_map_value]
  split
  · rfl
  · -- what is taken away may go before the policies that are named again
    rw [← eraseDups_filter, List.filter_map, List.filter_map, List.filter_filter,
      List.filter_filter]
    simp only [Function.comp_def, hempty, hadds]
    rfl

/-- The policies that an engine adds to a document. -/
def policiesBy (search : RegexSearch) (e : Engine) (r : Request) : List String :=
  if r.types.meets .documents then policies (e.matching search e.indexes.csp r) else []

theorem policyBy?_eq (search : RegexSearch) (e : Engine) (r : Request) :
    e.policyBy? search r = joined? (e.policiesBy search r) := by
  rw [policyBy?, policiesBy]
  cases r.types.meets .documents <;> rfl

/-- **An engine adds the policies that the list of the filters that are reached would**, however
many tokens the request has. -/
theorem policiesBy_build (search : RegexSearch) (network : List NetworkFilter)
    (cosmetic : List CosmeticFilter) (r : Request) :
    (Engine.build network cosmetic).policiesBy search r
      = scanPolicies search (reached network r) r := by
  have hmatching : (Engine.build network cosmetic).matching search
      (Engine.build network cosmetic).indexes.csp r = regulating search (reached network r) r := by
    refine (matching_build search network cosmetic r .csp).trans ?_
    exact congrArg (List.filter · (reached network r))
      (funext fun f => congrArg (· && f.isMatchBy search r) (role?_beq f .csp))
  rw [policiesBy, hmatching, policies_eq, scanPolicies]
  cases r.types.meets .documents <;> rfl

theorem role?_of_regulates {f : NetworkFilter} (h : f.regulates) : f.role? = some .csp :=
  beq_iff_eq.mp ((role?_beq f .csp).trans h)

/-- **An engine adds the policies that the whole list of its filters would**, where the tokens of
the request fit: none to what is no document, and none where an exception that matches names no
policy; otherwise those that filters add and no exception takes away, each where it is named
first. -/
theorem policyBy_build (search : RegexSearch) (network : List NetworkFilter)
    (cosmetic : List CosmeticFilter) (r : Request) (h : r.tokens.length ≤ tokenCapacity) :
    (Engine.build network cosmetic).policyBy? search r = joined? (scanPolicies search network r) ∧
    ∃ kept positions,
      KeepsFirst NetworkFilter.policy
        (fun f => f.regulates ∧ f.isMatchBy search r
          ∧ f.addsAmong (regulating search network r)) network kept positions
        ∧ addedPolicies (regulating search network r) = kept.map NetworkFilter.policy := by
  constructor
  · have hreached : regulating search (reached network r) r = regulating search network r := by
      refine filter_reached fun f _ hlive => ?_
      rw [Bool.and_eq_true] at hlive
      exact reaches_of_isMatchBy hlive.2 (role?_of_regulates hlive.1) h
    rw [policyBy?_eq, policiesBy_build, scanPolicies, scanPolicies, hreached]
  · obtain ⟨kept, positions, hkept, hpolicies⟩ :=
      exists_keepsFirst_eraseDups NetworkFilter.policy (fun f =>
        NetworkFilter.addsAmong (regulating search network r) f
          && (f.regulates && f.isMatchBy search r)) network
    rw [← List.filter_filter] at hpolicies
    refine ⟨kept, positions, hkept.congr fun f => ?_, hpolicies⟩
    rw [Bool.and_eq_true, Bool.and_eq_true, and_comm, and_assoc]

/-- Two filters that add policies, a third that adds one of them again, and an exception from the
other for some pages, which comes first. -/
def policyFilters : List NetworkFilter := [
  { mask := .make .full [.firstParty, .thirdParty, .exception, .csp], pattern := "/news/",
    value := some "img-src none" },
  { mask := .make .full [.firstParty, .thirdParty, .hostAnchor, .csp], pattern := "example.com^",
    value := some "img-src none" },
  { mask := .make .full [.firstParty, .thirdParty, .csp], pattern := "*",
    value := some "font-src none" },
  { mask := .make .full [.firstParty, .thirdParty, .hostAnchor, .csp], pattern := "example.com^",
    value := some "font-src none" }]

/-- A request for a document that all of them match. -/
def policyRequest : Request :=
  .ofHost "https://example.com/news/" (.ofList [.mainFrame]) "example.com" false

theorem policyBy_build_news :
    policyRequest.tokens.length ≤ tokenCapacity
      ∧ (Engine.build policyFilters []).policyBy? .compiled policyRequest
          = joined? (scanPolicies .compiled policyFilters policyRequest)
      ∧ scanPolicies .compiled policyFilters policyRequest = ["font-src none"] := by
  have hfits : policyRequest.tokens.length ≤ tokenCapacity := by decide +kernel
  obtain ⟨hpolicy, -⟩ := policyBy_build .compiled policyFilters [] policyRequest hfits
  exact ⟨hfits, hpolicy, by decide +kernel⟩

end Engine

end Blocklist
