import Mathlib
import Blocklist.Engine.Decide
import Blocklist.Proofs.Engine.Reach
/-!
# Engine — decisions without an index

The rules by which a request is decided need no index: `scan` reads them off
the list of filters, front to back. Main statement: an engine built of the
list decides in the same way (`decideBy_build`), as long as the tokens of
the request fit.
-/

namespace Blocklist

/-! ## The rules -/

namespace NetworkFilter

/-- Whether a filter has a say in decisions: it cancels no other and adds no policy. -/
def decides (f : NetworkFilter) : Bool := !f.mask.has .badfilter && !f.mask.has .csp

/-- Whether a filter that has a say blocks. -/
def blocks (f : NetworkFilter) : Bool := !f.mask.has .exception && !f.mask.has .redirectRule

/-- Whether a filter that has a say allows what others block. -/
def allows (f : NetworkFilter) : Bool :=
  f.mask.has .exception && !f.mask.has .redirect && !f.mask.has .redirectRule

/-- Whether a filter redirects what another one blocks. -/
def redirects (f : NetworkFilter) : Bool := f.mask.has .redirectRule && !f.mask.has .exception

/-- Whether a filter keeps requests from being redirected to a resource: it names no resource, the
empty one, or this one. -/
def withholds (resource : String) (f : NetworkFilter) : Bool :=
  f.mask.has .exception && (f.mask.has .redirect || f.mask.has .redirectRule)
    && (f.value == none || f.value == some "" || f.value == some resource)

end NetworkFilter

/-- The filters that match a request and have a say in it, in order. -/
def live (search : RegexSearch) (filters : List NetworkFilter) (r : Request) :
    List NetworkFilter :=
  filters.filter fun f => f.decides && f.isMatchBy search r

/-- Decides on a request by the whole list of filters. -/
def scan (search : RegexSearch) (filters : List NetworkFilter) (r : Request) : Verdict :=
  let live := live search filters r
  match live.find? NetworkFilter.blocks with
  | none => ⟨.allow, none, none⟩
  | some block =>
    match live.find? NetworkFilter.allows with
    | some exception => ⟨.allow, some exception.id, none⟩
    | none =>
      let resource :=
        if block.mask.has .redirect then block.value
        else (live.find? NetworkFilter.redirects).bind NetworkFilter.value
      ⟨.block, some block.id,
        resource.filter fun resource => !live.any (NetworkFilter.withholds resource)⟩

section Scan

variable {search : RegexSearch} {filters : List NetworkFilter} {r : Request}
variable {part : NetworkFilter → Bool}

theorem exists_mem_of_find?_live {f : NetworkFilter}
    (h : (live search filters r).find? part = some f) :
    f ∈ filters ∧ f.decides ∧ part f ∧ f.isMatchBy search r := by
  obtain ⟨hmem, hlive⟩ := List.mem_filter.mp (List.mem_of_find?_eq_some h)
  rw [Bool.and_eq_true] at hlive
  exact ⟨hmem, hlive.1, List.find?_some h, hlive.2⟩

theorem isSome_find?_live_iff : ((live search filters r).find? part).isSome ↔
    ∃ f ∈ filters, f.decides ∧ part f ∧ f.isMatchBy search r := by
  rw [List.find?_isSome]
  simp only [live, List.mem_filter, Bool.and_eq_true, and_assoc]
  exact exists_congr fun f => and_congr_right fun _ => and_congr_right fun _ => and_comm

/-- **When a request is blocked**: some filter blocks it, and none allows it. -/
theorem scan_decision_eq_block_iff : (scan search filters r).decision = .block ↔
    (∃ f ∈ filters, f.decides ∧ f.blocks ∧ f.isMatchBy search r) ∧
      ¬ ∃ f ∈ filters, f.decides ∧ f.allows ∧ f.isMatchBy search r := by
  rw [← isSome_find?_live_iff, ← isSome_find?_live_iff, scan]
  cases (live search filters r).find? NetworkFilter.blocks with
  | none => simp
  | some block => cases (live search filters r).find? NetworkFilter.allows <;> simp

/-- The filter whose id a blocked request comes back with is one that blocks it. -/
theorem exists_mem_of_scan_block (h : (scan search filters r).decision = .block) :
    ∃ f ∈ filters, f.blocks ∧ f.isMatchBy search r ∧
      (scan search filters r).filterId = some f.id := by
  rw [scan] at h ⊢
  cases hblock : (live search filters r).find? NetworkFilter.blocks with
  | none => simp [hblock] at h
  | some block =>
    obtain ⟨hmem, -, hblocks, hmatch⟩ := exists_mem_of_find?_live hblock
    cases hallow : (live search filters r).find? NetworkFilter.allows with
    | some exception => simp [hblock, hallow] at h
    | none => exact ⟨block, hmem, hblocks, hmatch, rfl⟩

end Scan

namespace Engine

variable {search : RegexSearch} {network : List NetworkFilter} {cosmetic : List CosmeticFilter}
variable {r : Request}

/-! ## Parts and rules -/

section Parts

variable {role : NetworkRole} {chosen part : NetworkFilter → Bool}

/-- **Which part a filter plays**, by the rules that it has a say in. -/
theorem role?_beq (f : NetworkFilter) (role : NetworkRole) :
    (f.role? == some role) = match role with
      | .block => f.decides && f.blocks
      | .exception => f.decides && f.allows
      | .redirect => f.decides && (f.redirects
          || f.mask.has .exception && (f.mask.has .redirect || f.mask.has .redirectRule))
      | .csp => !f.mask.has .badfilter && f.mask.has .csp := by
  unfold NetworkFilter.role? NetworkFilter.decides NetworkFilter.blocks NetworkFilter.allows
    NetworkFilter.redirects
  cases role <;> dsimp only <;>
    cases f.mask.has .badfilter <;> cases f.mask.has .csp <;> cases f.mask.has .redirectRule <;>
    cases f.mask.has .exception <;> cases f.mask.has .redirect <;> rfl

theorem role?_beq_redirect_and_not_exception (f : NetworkFilter) :
    (f.role? == some .redirect && !f.mask.has .exception) = (f.decides && f.redirects) := by
  rw [role?_beq]
  unfold NetworkFilter.redirects
  cases f.mask.has .exception <;> simp

theorem role?_beq_redirect_and_forbidsRedirect (resource : String) (f : NetworkFilter) :
    (f.role? == some .redirect && forbidsRedirect resource f)
      = (f.decides && f.withholds resource) := by
  have hvalue : (f.value.all fun value => value.isEmpty || value == resource)
      = (f.value == none || f.value == some "" || f.value == some resource) := by
    cases f.value with
    | none => rfl
    | some value =>
      have hempty : value.isEmpty = (value == "") := by
        rw [Bool.eq_iff_iff, String.isEmpty_iff, beq_iff_eq]
      simp [hempty]
  rw [role?_beq]
  unfold forbidsRedirect NetworkFilter.withholds NetworkFilter.redirects
  rw [hvalue]
  cases f.mask.has .exception with
  | false => simp
  | true => simp [Bool.and_assoc]

/-- To choose among the filters of a part is to choose among those that have a say, as far as they
are reached. -/
theorem filter_matching_build
    (hpart : ∀ f : NetworkFilter, (f.role? == some role && chosen f) = (f.decides && part f)) :
    ((Engine.build network cosmetic).matching search
        (.build (Indexes.networkEntries role network)) r).filter chosen
      = (live search (reached network r) r).filter part := by
  rw [matching_build, live, List.filter_filter, List.filter_filter]
  refine congrArg (List.filter · (reached network r)) (funext fun f => ?_)
  rw [← Bool.and_assoc, ← Bool.and_assoc, Bool.and_comm (chosen f), Bool.and_comm (part f), hpart f]

theorem find?_matching_build
    (hpart : ∀ f : NetworkFilter, (f.role? == some role && chosen f) = (f.decides && part f)) :
    ((Engine.build network cosmetic).matching search
        (.build (Indexes.networkEntries role network)) r).find? chosen
      = (live search (reached network r) r).find? part := by
  rw [← List.head?_filter, ← List.head?_filter, filter_matching_build hpart]

theorem any_matching_build
    (hpart : ∀ f : NetworkFilter, (f.role? == some role && chosen f) = (f.decides && part f)) :
    ((Engine.build network cosmetic).matching search
        (.build (Indexes.networkEntries role network)) r).any chosen
      = (live search (reached network r) r).any part := by
  rw [Bool.eq_iff_iff, List.any_eq_true, List.any_eq_true, ← List.find?_isSome,
    ← List.find?_isSome, find?_matching_build hpart]

theorem head?_matching_build
    (hpart : ∀ f : NetworkFilter, (f.role? == some role && true) = (f.decides && part f)) :
    ((Engine.build network cosmetic).matching search
        (.build (Indexes.networkEntries role network)) r).head?
      = (live search (reached network r) r).find? part := by
  rw [← find?_matching_build hpart, ← List.head?_filter, List.filter_true]

end Parts

/-! ## Decisions -/

/-- The resource that an engine redirects to is the one that the rules name, by the filters that
are reached. -/
theorem redirect?_build (block : NetworkFilter) :
    (Engine.build network cosmetic).redirect? search r block
      = (if block.mask.has .redirect then block.value
          else ((live search (reached network r) r).find? NetworkFilter.redirects).bind
            NetworkFilter.value).filter
        fun resource =>
          !(live search (reached network r) r).any (NetworkFilter.withholds resource) := by
  have hredirects : ((Engine.build network cosmetic).matching search
      (Engine.build network cosmetic).indexes.redirects r).find? (!·.mask.has .exception)
        = (live search (reached network r) r).find? NetworkFilter.redirects :=
    find?_matching_build role?_beq_redirect_and_not_exception
  have hforbids : ∀ resource, ((Engine.build network cosmetic).matching search
      (Engine.build network cosmetic).indexes.redirects r).any (forbidsRedirect resource)
        = (live search (reached network r) r).any (NetworkFilter.withholds resource) :=
    fun resource => any_matching_build (role?_beq_redirect_and_forbidsRedirect resource)
  have hkept : ∀ found : Option String,
      (found.bind fun resource =>
        if (live search (reached network r) r).any (NetworkFilter.withholds resource) then none
        else some resource)
      = found.filter fun resource =>
        !(live search (reached network r) r).any (NetworkFilter.withholds resource) := by
    intro found
    cases found with
    | none => rfl
    | some resource =>
      rw [Option.bind_some, Option.filter_some]
      cases (live search (reached network r) r).any (NetworkFilter.withholds resource) <;> rfl
  unfold redirect?
  dsimp only
  simp only [hredirects, hforbids, Option.bind_eq_bind, hkept]
  split <;> rfl

/-- **An engine decides as the list of the filters that are reached would**, however many tokens
the request has. -/
theorem decideBy_build_reached (search : RegexSearch) (network : List NetworkFilter)
    (cosmetic : List CosmeticFilter) (r : Request) :
    (Engine.build network cosmetic).decideBy search r = scan search (reached network r) r := by
  have hblocks : ((Engine.build network cosmetic).matching search
      (Engine.build network cosmetic).indexes.blocks r).head?
        = (live search (reached network r) r).find? NetworkFilter.blocks :=
    head?_matching_build fun f => (Bool.and_true _).trans (role?_beq f .block)
  have hallows : ((Engine.build network cosmetic).matching search
      (Engine.build network cosmetic).indexes.exceptions r).head?
        = (live search (reached network r) r).find? NetworkFilter.allows :=
    head?_matching_build fun f => (Bool.and_true _).trans (role?_beq f .exception)
  rw [decideBy, scan, hblocks, hallows]
  dsimp only
  cases (live search (reached network r) r).find? NetworkFilter.blocks with
  | none => rfl
  | some block =>
    cases (live search (reached network r) r).find? NetworkFilter.allows with
    | some exception => rfl
    | none => exact congrArg (Verdict.mk .block (some block.id)) (redirect?_build block)

/-- Filters that are not reached change no verdict if none of them matches and has a say. -/
theorem scan_reached (h : ∀ f ∈ network, f.decides → f.isMatchBy search r → reaches network r f) :
    scan search (reached network r) r = scan search network r := by
  have hlive : live search (reached network r) r = live search network r := by
    refine filter_reached fun f hf hlive => ?_
    rw [Bool.and_eq_true] at hlive
    exact h f hf hlive.1 hlive.2
  rw [scan, scan, hlive]

/-- A filter that has a say plays a part. -/
theorem exists_role_of_decides {f : NetworkFilter} (h : f.decides) :
    ∃ role, f.role? = some role := by
  rw [← Option.isSome_iff_exists, ← Option.ne_none_iff_isSome, ne_eq,
    NetworkFilter.role?_eq_none_iff]
  simp only [NetworkFilter.decides, Bool.and_eq_true, Bool.not_eq_true'] at h
  simp [h.1]

/-- Where the tokens of the request fit, those that are not reached change none. -/
theorem scan_reached_of_fits (h : r.tokens.length ≤ tokenCapacity) :
    scan search (reached network r) r = scan search network r := by
  refine scan_reached fun f _ hdecides hmatch => ?_
  obtain ⟨role, hrole⟩ := exists_role_of_decides hdecides
  exact reaches_of_isMatchBy hmatch hrole h

/-- **An engine decides as the whole list of its filters would**, where the tokens of the request
fit: the index that it looks into changes no verdict. -/
theorem decideBy_build (search : RegexSearch) (network : List NetworkFilter)
    (cosmetic : List CosmeticFilter) (r : Request) (h : r.tokens.length ≤ tokenCapacity) :
    (Engine.build network cosmetic).decideBy search r = scan search network r := by
  rw [decideBy_build_reached, scan_reached_of_fits h]

/-- A filter that blocks a host, and one that redirects from some pages. -/
def bannerFilters : List NetworkFilter := [
  { mask := .make .full [.firstParty, .thirdParty, .hostAnchor], pattern := "ads.example.com^" },
  { mask := .make .full [.firstParty, .thirdParty, .redirectRule], pattern := "*.js",
    domains := some ⟨"example.org,~news.example.org"⟩, value := some "noop.js" }]

/-- A request that both of them match. -/
def bannerRequest : Request :=
  .ofHost "https://ads.example.com/banner.js" .full "shop.example.org" true

theorem decideBy_build_banner :
    bannerRequest.tokens.length ≤ tokenCapacity
      ∧ (Engine.build bannerFilters []).decideBy .compiled bannerRequest
          = scan .compiled bannerFilters bannerRequest
      ∧ (scan .compiled bannerFilters bannerRequest).redirect = some "noop.js" := by
  have hfits : bannerRequest.tokens.length ≤ tokenCapacity := by decide +kernel
  exact ⟨hfits, decideBy_build .compiled bannerFilters [] bannerRequest hfits, by cbv⟩

end Engine

end Blocklist
