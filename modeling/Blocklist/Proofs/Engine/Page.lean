import Blocklist.Engine.Page
import Blocklist.Proofs.Host.Covering
import Blocklist.Proofs.Index.Lookup
import Blocklist.Proofs.Positions
/-!
# Engine — what is done to a page, without an index

A cosmetic filter that admits a page's host is looked at where it names a
host, or where the page shows the token that it is filed under
(`pageFilters_build`). Of those looked at, the ones that are no exceptions
and that no exception undoes are live (`IsLive`); the page's lists hold their
selectors, the first of each effect. Main statement: these lists are sound,
complete and in order (`isListing_page_build`).

An exception has to be looked at as well. One that names no host may be out
of sight where a filter that names a host is not; in no other case does an
exception for the page fail (`mem_page_iff_of_exception`).
-/

namespace Blocklist

/-- The selectors that have an action. -/
def PageActions.ofAction (page : PageActions) : CosmeticAction → List String
  | .hide => page.hide
  | .inject => page.inject
  | .block => page.block

/-- Whether a filter names a host that it is for. -/
def CosmeticFilter.namesHost (f : CosmeticFilter) : Bool := f.hostnames.any HostList.hasPositive

namespace Engine

variable {network : List NetworkFilter} {cosmetic : List CosmeticFilter}
variable {host : List Char} {domTokens : List String} {f : CosmeticFilter} {i : Nat}

theorem effect_eq_iff {g : CosmeticFilter} :
    effect f = effect g ↔ f.action = g.action ∧ f.selector = g.selector := Prod.ext_iff

/-! ## What is filed -/

theorem hostGroups?_eq (f : CosmeticFilter) :
    Indexes.hostGroups? f = (f.hostnames.filter HostList.hasPositive).map fun hosts =>
      hosts.positive.map fun host => [hashText (String.ofList host)] := by
  unfold Indexes.hostGroups?
  cases f.hostnames with
  | none => rfl
  | some hosts =>
    simp only [Option.bind_eq_bind, Option.bind_some, Option.filter_some]
    split <;> rfl

theorem hostGroups?_isSome (f : CosmeticFilter) :
    (Indexes.hostGroups? f).isSome = f.namesHost := by
  rw [hostGroups?_eq, Option.isSome_map, CosmeticFilter.namesHost, Option.isSome_filter]

theorem mem_hostEntries {entry : IndexEntry} :
    entry ∈ Indexes.hostEntries cosmetic
      ↔ ∃ f, cosmetic[entry.position]? = some f ∧ Indexes.hostGroups? f = some entry.groups := by
  simp only [Indexes.hostEntries, List.mem_filterMap, List.mem_zipIdx_iff_getElem?,
    Option.map_eq_some_iff]
  constructor
  · rintro ⟨⟨f, i⟩, hi, groups, hgroups, rfl⟩
    exact ⟨f, hi, hgroups⟩
  · rintro ⟨f, hi, hgroups⟩
    exact ⟨(f, entry.position), hi, entry.groups, hgroups, rfl⟩

theorem mem_genericEntries {entry : IndexEntry} :
    entry ∈ Indexes.genericEntries cosmetic
      ↔ ∃ f, cosmetic[entry.position]? = some f ∧ f.namesHost = false
        ∧ entry.groups = f.tokenGroups := by
  simp only [Indexes.genericEntries, List.mem_map, List.mem_filter, List.mem_zipIdx_iff_getElem?,
    ← Option.not_isSome, Bool.not_eq_true', hostGroups?_isSome]
  constructor
  · rintro ⟨⟨f, i⟩, ⟨hi, hnames⟩, rfl⟩
    exact ⟨f, hi, hnames, rfl⟩
  · rintro ⟨f, hi, hnames, hgroups⟩
    exact ⟨(f, entry.position), ⟨hi, hnames⟩, by rw [← hgroups]⟩

/-! ## What is looked at -/

/-- Whether a page shows the token that a filter without a host of its own is filed under, or the
filter is filed under nothing. -/
def isShown (cosmetic : List CosmeticFilter) (domTokens : List String) (f : CosmeticFilter) :
    Bool :=
  (TokenIndex.rarest? (TokenIndex.countsOf (Indexes.genericEntries cosmetic))
    f.selectorTokens).all (domTokens.map hashText).contains

/-- Whether a filter is looked at for a page whose host it admits. -/
def isSeen (cosmetic : List CosmeticFilter) (domTokens : List String) (f : CosmeticFilter) : Bool :=
  f.namesHost || isShown cosmetic domTokens f

theorem isSeen_iff :
    isSeen cosmetic domTokens f ↔ f.namesHost ∨ isShown cosmetic domTokens f := by
  rw [isSeen, Bool.or_eq_true]

/-- A filter of which every token is shown has the one shown that it is filed under. -/
theorem isShown_of_forall_mem (h : ∀ token ∈ f.selectorTokens, token ∈ domTokens.map hashText) :
    isShown cosmetic domTokens f := by
  rw [isShown, Option.all_eq_true]
  exact fun token htoken => List.contains_iff_mem.mpr (h token (TokenIndex.rarest?_mem htoken))

/-- A filter with a single token is filed under it, whatever else is filed. -/
theorem isShown_iff_of_selectorTokens_eq {token : UInt32} (h : f.selectorTokens = [token]) :
    isShown cosmetic domTokens f ↔ token ∈ domTokens.map hashText := by
  rw [isShown, h, TokenIndex.rarest?_singleton, Option.all_some, List.contains_iff_mem]

/-- Filters with the same effect are filed under the same token. -/
theorem isShown_congr {g : CosmeticFilter} (h : effect f = effect g) :
    isShown cosmetic domTokens f = isShown cosmetic domTokens g := by
  obtain ⟨haction, hselector⟩ := effect_eq_iff.mp h
  rw [isShown, isShown, CosmeticFilter.selectorTokens, CosmeticFilter.selectorTokens, haction,
    hselector]

theorem mem_collect_iff {index : TokenIndex} {tokens : List UInt32} :
    i ∈ index.collect tokens ↔ i ∈ index.candidates tokens :=
  mem_ascending.symm

/-- A filter that admits the page's host is found by the parents of the host exactly where it names
a host. -/
theorem mem_candidates_hostEntries_iff (hi : cosmetic[i]? = some f) (hadmits : f.admits host) :
    i ∈ (TokenIndex.build (Indexes.hostEntries cosmetic)).candidates
        ((Host.suffixes host).map fun host => hashText (String.ofList host)) ↔ f.namesHost := by
  constructor
  · intro hmem
    obtain ⟨entry, hentry, rfl, -⟩ := TokenIndex.mem_candidates_build.mp hmem
    obtain ⟨g, hg, hgroups⟩ := mem_hostEntries.mp hentry
    obtain rfl := Option.some.inj (hi.symm.trans hg)
    rw [← hostGroups?_isSome, hgroups, Option.isSome_some]
  · intro hnames
    obtain ⟨hosts, hhosts, hpositive⟩ := (Option.any_eq_true _ _).mp hnames
    have hadmits : hosts.admits host := by
      rw [CosmeticFilter.admits, hhosts] at hadmits
      exact hadmits
    have hfiled : ⟨i, hosts.positive.map fun host => [hashText (String.ofList host)]⟩
        ∈ Indexes.hostEntries cosmetic := by
      refine mem_hostEntries.mpr ⟨f, hi, ?_⟩
      rw [hostGroups?_eq, hhosts, Option.filter_some_pos hpositive, Option.map_some]
    -- one of the hosts that the filter names covers the page's, so it is among the parents
    obtain ⟨entry, hentry, hsuffix⟩ := HostList.exists_positive_mem_suffixes hpositive hadmits
    refine TokenIndex.mem_candidates_of_group hfiled (List.mem_map_of_mem hentry) ?_
    intro token htoken
    obtain rfl := List.mem_singleton.mp htoken
    exact List.mem_map_of_mem hsuffix

/-- A filter is found by the tokens of the page exactly where it names no host and the page shows
it. -/
theorem mem_candidates_genericEntries_iff (hi : cosmetic[i]? = some f) :
    i ∈ (TokenIndex.build (Indexes.genericEntries cosmetic)).candidates (domTokens.map hashText)
      ↔ f.namesHost = false ∧ isShown cosmetic domTokens f := by
  simp only [TokenIndex.mem_candidates_build, isShown, Option.all_eq_true, List.contains_iff_mem]
  constructor
  · rintro ⟨entry, hentry, rfl, hgroups⟩
    obtain ⟨g, hg, hnames, hsame⟩ := mem_genericEntries.mp hentry
    obtain rfl := Option.some.inj (hi.symm.trans hg)
    exact ⟨hnames, by simpa [hsame, CosmeticFilter.tokenGroups] using hgroups⟩
  · rintro ⟨hnames, hshown⟩
    refine ⟨⟨i, f.tokenGroups⟩, mem_genericEntries.mpr ⟨f, hi, hnames, rfl⟩, rfl, .inr ?_⟩
    exact ⟨f.selectorTokens, List.mem_singleton_self _, hshown⟩

/-- The positions that a page looks up are those of the filters that it sees, among the ones that
admit its host. -/
theorem mem_lookup_iff_isSeen (hi : cosmetic[i]? = some f) (hadmits : f.admits host) :
    i ∈ (TokenIndex.build (Indexes.hostEntries cosmetic)).collect
          ((Host.suffixes host).map fun host => hashText (String.ofList host))
        ++ (TokenIndex.build (Indexes.genericEntries cosmetic)).collect (domTokens.map hashText)
      ↔ isSeen cosmetic domTokens f := by
  rw [List.mem_append, mem_collect_iff, mem_collect_iff,
    mem_candidates_hostEntries_iff hi hadmits, mem_candidates_genericEntries_iff hi, isSeen_iff]
  cases f.namesHost <;> simp

/-- **What is looked at for a page**: the filters that admit its host and are seen, in order. -/
theorem pageFilters_build (network : List NetworkFilter) (cosmetic : List CosmeticFilter)
    (host : List Char) (domTokens : List String) :
    (Engine.build network cosmetic).pageFilters host domTokens
      = cosmetic.filter fun f => isSeen cosmetic domTokens f && f.admits host := by
  have hfetch : (fun i => (Engine.build network cosmetic).cosmetic[i]?) = (cosmetic[·]?) :=
    funext fun i => List.getElem?_toArray
  rw [pageFilters, hfetch]
  refine filter_filterMap_getElem?_of_pairwise (pairwise_lt_ascending _) ?_
  intro i f hi
  rw [Bool.and_eq_true, mem_ascending]
  exact and_congr_left fun hadmits => mem_lookup_iff_isSeen hi hadmits

/-! ## What is acted on -/

/-- A filter that is acted on for a page: it hides and is looked at, and no exception that is
looked at has its effect. -/
structure IsLive (cosmetic : List CosmeticFilter) (host : List Char) (domTokens : List String)
    (f : CosmeticFilter) : Prop where
  /-- It is no exception. -/
  acts : ¬ f.mask.has .unhide
  /-- It is for the page's host. -/
  admits : f.admits host
  /-- It is looked at. -/
  seen : isSeen cosmetic domTokens f
  /-- No exception that is looked at undoes it. -/
  lasts : ∀ u ∈ cosmetic, u.mask.has .unhide → u.admits host → isSeen cosmetic domTokens u →
    effect u ≠ effect f

/-- **The effects on a page are those of the live filters**, the first of each. -/
theorem exists_keepsFirst_effects (network : List NetworkFilter) (cosmetic : List CosmeticFilter)
    (host : List Char) (domTokens : List String) :
    ∃ kept positions, KeepsFirst effect (IsLive cosmetic host domTokens) cosmetic kept positions
      ∧ effects ((Engine.build network cosmetic).pageFilters host domTokens)
        = kept.map effect := by
  have heffects : effects ((Engine.build network cosmetic).pageFilters host domTokens)
      = ((cosmetic.filter fun f => (isSeen cosmetic domTokens f && f.admits host)
          && !f.mask.has .unhide
          && !(((cosmetic.filter fun f => isSeen cosmetic domTokens f && f.admits host).filter
            (·.mask.has .unhide)).map effect).contains (effect f)).map effect).eraseDups := by
    rw [effects, pageFilters_build]
    simp only [List.filter_map, List.filter_filter, Function.comp_def, Bool.and_comm,
      Bool.and_left_comm]
  obtain ⟨kept, positions, h, hkept⟩ := exists_keepsFirst_eraseDups effect _ cosmetic
  refine ⟨kept, positions, h.congr fun f => ?_, heffects.trans hkept⟩
  simp only [Bool.and_eq_true, Bool.not_eq_true', List.contains_eq_mem, decide_eq_false_iff_not,
    List.mem_map, List.mem_filter, not_exists, not_and]
  constructor
  · rintro ⟨⟨⟨hseen, hadmits⟩, hacts⟩, hlasts⟩
    refine ⟨by simp [hacts], hadmits, hseen, fun u hu hunhide huadmits huseen => ?_⟩
    exact hlasts u ⟨⟨hu, huseen, huadmits⟩, hunhide⟩
  · rintro ⟨hacts, hadmits, hseen, hlasts⟩
    refine ⟨⟨⟨hseen, hadmits⟩, by simpa using hacts⟩, fun u hu => ?_⟩
    exact hlasts u hu.1.1 hu.2 hu.1.2.2 hu.1.2.1

/-- The list of an action has the selectors of the effects with this action. -/
theorem ofAction_page (e : Engine) (host : String) (domTokens : List String)
    (action : CosmeticAction) :
    (e.page host domTokens).ofAction action
      = selectorsOf action (effects (e.pageFilters (Text.lower host.toList) domTokens)) := by
  cases action <;> rfl

theorem selectorsOf_map_effect (action : CosmeticAction) (filters : List CosmeticFilter) :
    selectorsOf action (filters.map effect)
      = (filters.filter (·.action == action)).map CosmeticFilter.selector := by
  rw [selectorsOf, List.filter_map, List.map_map]
  rfl

/-- **What a page's lists hold**: the selectors of the live filters. -/
theorem mem_ofAction_page_build {host : String} {action : CosmeticAction} {selector : String} :
    selector ∈ ((Engine.build network cosmetic).page host domTokens).ofAction action
      ↔ ∃ f ∈ cosmetic, IsLive cosmetic (Text.lower host.toList) domTokens f
        ∧ effect f = (action, selector) := by
  obtain ⟨kept, positions, h, hkept⟩ :=
    exists_keepsFirst_effects network cosmetic (Text.lower host.toList) domTokens
  rw [ofAction_page, hkept, ← h.mem_map_iff]
  simp [selectorsOf]

/-- What the list of an action has to be for a page. -/
structure IsListing (cosmetic : List CosmeticFilter) (host : List Char) (domTokens : List String)
    (action : CosmeticAction) (list : List String) : Prop where
  /-- No selector is listed twice. -/
  nodup : list.Nodup
  /-- What is listed comes from a filter that is no exception, has the action and admits the
  host. -/
  sound : ∀ selector ∈ list, ∃ f ∈ cosmetic, ¬ f.mask.has .unhide ∧ f.admits host
    ∧ f.action = action ∧ f.selector = selector
  /-- The list is in the order of the filters: of the live ones with one effect, the first
  counts. -/
  order : ∃ kept positions,
    KeepsFirst effect (IsLive cosmetic host domTokens) cosmetic kept positions
    ∧ list = (kept.filter (·.action == action)).map CosmeticFilter.selector
  /-- A filter that admits the host is listed if it names a host or each of its tokens is shown, and
  no exception that admits the host has its effect. -/
  complete : ∀ f ∈ cosmetic, ¬ f.mask.has .unhide → f.admits host → f.action = action →
    (f.namesHost ∨ ∀ token ∈ f.selectorTokens, token ∈ domTokens.map hashText) →
    (∀ u ∈ cosmetic, u.mask.has .unhide → u.admits host → effect u ≠ effect f) →
    f.selector ∈ list

/-- **The lists of a page are sound, complete and in order.** -/
theorem isListing_page_build (network : List NetworkFilter) (cosmetic : List CosmeticFilter)
    (host : String) (domTokens : List String) (action : CosmeticAction) :
    IsListing cosmetic (Text.lower host.toList) domTokens action
      (((Engine.build network cosmetic).page host domTokens).ofAction action) where
  nodup := by
    obtain ⟨kept, positions, h, hkept⟩ :=
      exists_keepsFirst_effects network cosmetic (Text.lower host.toList) domTokens
    rw [ofAction_page, hkept, selectorsOf_map_effect]
    have hdistinct : kept.Pairwise fun f g => effect f ≠ effect g := List.pairwise_map.mp h.nodup
    refine List.pairwise_map.mpr ((hdistinct.filter _).imp_of_mem fun {f g} hf hg hne heq => ?_)
    have hf : f.action = action := by simpa using (List.mem_filter.mp hf).2
    have hg : g.action = action := by simpa using (List.mem_filter.mp hg).2
    exact hne (effect_eq_iff.mpr ⟨hf.trans hg.symm, heq⟩)
  sound selector hselector := by
    obtain ⟨f, hf, hlive, heffect⟩ := mem_ofAction_page_build.mp hselector
    obtain ⟨haction, hsame⟩ := Prod.mk.inj heffect
    exact ⟨f, hf, hlive.acts, hlive.admits, haction, hsame⟩
  order := by
    obtain ⟨kept, positions, h, hkept⟩ :=
      exists_keepsFirst_effects network cosmetic (Text.lower host.toList) domTokens
    exact ⟨kept, positions, h, by rw [ofAction_page, hkept, selectorsOf_map_effect]⟩
  complete f hf hacts hadmits haction hreached hlasts := by
    refine mem_ofAction_page_build.mpr ⟨f, hf, ⟨hacts, hadmits, ?_, ?_⟩, ?_⟩
    · exact isSeen_iff.mpr (hreached.imp_right isShown_of_forall_mem)
    · exact fun u hu hunhide huadmits _ => hlasts u hu hunhide huadmits
    · rw [effect, haction]

/-- Adverts are hidden on every page, banners on the pages of one host, and adverts not on those of
another. -/
def advertFilters : List CosmeticFilter := [
  { mask := .make [], selector := ".ad" },
  { mask := .make [], selector := ".banner", hostnames := some ⟨"example.com"⟩ },
  { mask := .make [.unhide], selector := ".ad", hostnames := some ⟨"example.org"⟩ }]

theorem isListing_page_build_adverts :
    ".ad" ∈ ((Engine.build [] advertFilters).page "www.Example.com" ["ad"]).ofAction .hide
      ∧ ".banner" ∈ ((Engine.build [] advertFilters).page "www.Example.com" ["ad"]).ofAction .hide
      := by
  have hlisting := isListing_page_build [] advertFilters "www.Example.com" ["ad"] .hide
  have hfree : ∀ u ∈ advertFilters, u.mask.has .unhide →
      ¬ u.admits (Text.lower "www.Example.com".toList) := by decide +kernel
  have htokens : advertFilters[0].selectorTokens = [hashText "ad"] := by decide +kernel
  constructor
  · refine hlisting.complete advertFilters[0] (by decide) (by decide) (by decide +kernel) rfl
      (.inr fun token htoken => ?_) ?_
    · rw [htokens] at htoken
      exact htoken
    · exact fun u hu hunhide hadmits => absurd hadmits (hfree u hu hunhide)
  · refine hlisting.complete advertFilters[1] (by decide) (by decide) (by decide +kernel) rfl
      (.inl (by decide +kernel)) ?_
    exact fun u hu hunhide hadmits => absurd hadmits (hfree u hu hunhide)

/-! ## Exceptions -/

/-- **When an exception does not win.** The selector of an exception that admits the page's host is
acted on exactly where no exception for the page with its effect names a host, the page does not
show the token that they are filed under, and a filter for the page that has this effect names a
host. -/
theorem mem_page_iff_of_exception (network : List NetworkFilter) (cosmetic : List CosmeticFilter)
    (host : String) (domTokens : List String) {u : CosmeticFilter} (hu : u ∈ cosmetic)
    (hunhide : u.mask.has .unhide) (hadmits : u.admits (Text.lower host.toList)) :
    u.selector ∈ ((Engine.build network cosmetic).page host domTokens).ofAction u.action ↔
      (∀ v ∈ cosmetic, v.mask.has .unhide → v.admits (Text.lower host.toList) →
        effect v = effect u → ¬ v.namesHost) ∧
      ¬ isShown cosmetic domTokens u ∧
      ∃ f ∈ cosmetic, ¬ f.mask.has .unhide ∧ f.admits (Text.lower host.toList)
        ∧ effect f = effect u ∧ f.namesHost := by
  rw [mem_ofAction_page_build]
  constructor
  · rintro ⟨f, hf, hlive, heffect : effect f = effect u⟩
    have hunseen : ∀ v ∈ cosmetic, v.mask.has .unhide → v.admits (Text.lower host.toList) →
        effect v = effect u → ¬ isSeen cosmetic domTokens v :=
      fun v hv hvunhide hvadmits hsame hseen =>
        hlive.lasts v hv hvunhide hvadmits hseen (hsame.trans heffect.symm)
    have hshown : ¬ isShown cosmetic domTokens u := by
      intro hshown
      exact hunseen u hu hunhide hadmits rfl (isSeen_iff.mpr (.inr hshown))
    refine ⟨fun v hv hvunhide hvadmits hsame hnames => ?_, hshown, f, hf, hlive.acts, hlive.admits,
      heffect, ?_⟩
    · exact hunseen v hv hvunhide hvadmits hsame (isSeen_iff.mpr (.inl hnames))
    · -- the filter is filed under the exception's token, so it is not seen by what is shown
      rw [← isShown_congr heffect] at hshown
      exact (isSeen_iff.mp hlive.seen).resolve_right hshown
  · rintro ⟨hnames, hshown, f, hf, hacts, hfadmits, heffect, hfnames⟩
    refine ⟨f, hf, ⟨hacts, hfadmits, isSeen_iff.mpr (.inl hfnames), ?_⟩, heffect⟩
    intro v hv hvunhide hvadmits hseen hsame
    have hsame : effect v = effect u := hsame.trans heffect
    rw [← isShown_congr hsame] at hshown
    exact (isSeen_iff.mp hseen).elim (hnames v hv hvunhide hvadmits hsame) hshown

/-- A filter that hides adverts on the pages of one host. -/
def hidesAdverts : CosmeticFilter :=
  { mask := .make [], selector := ".ad", hostnames := some ⟨"example.com"⟩ }

/-- An exception from it for all pages but those of another host. -/
def sparesAdverts : CosmeticFilter :=
  { mask := .make [.unhide], selector := ".ad", hostnames := some ⟨"~example.org"⟩ }

theorem selectorTokens_sparesAdverts : sparesAdverts.selectorTokens = [hashText "ad"] := by
  decide +kernel

theorem admits_sparesAdverts : sparesAdverts.admits (Text.lower "example.com".toList) := by
  decide +kernel

theorem mem_page_iff_of_exception_adverts :
    sparesAdverts.selector
      ∉ ((Engine.build [] [hidesAdverts, sparesAdverts]).page "example.com" ["ad"]).ofAction .hide
      := by
  have hiff := mem_page_iff_of_exception [] [hidesAdverts, sparesAdverts] "example.com" ["ad"]
    (List.mem_cons_of_mem _ (List.mem_singleton_self sparesAdverts)) (by decide)
    admits_sparesAdverts
  intro hmem
  refine (hiff.mp hmem).2.1 ((isShown_iff_of_selectorTokens_eq selectorTokens_sparesAdverts).mpr ?_)
  exact List.mem_singleton_self _

/-- **An exception can be overlooked**: it names no host and its token is not shown, so the filter
that names one hides what the exception spares. -/
theorem exists_exception_overlooked :
    ¬ ∀ (network : List NetworkFilter) (cosmetic : List CosmeticFilter) (host : String)
      (domTokens : List String), ∀ u ∈ cosmetic, u.mask.has .unhide →
      u.admits (Text.lower host.toList) →
      u.selector ∉ ((Engine.build network cosmetic).page host domTokens).ofAction u.action := by
  intro hwins
  refine hwins [] [hidesAdverts, sparesAdverts] "example.com" [] sparesAdverts (by simp) (by decide)
    admits_sparesAdverts ?_
  rw [mem_ofAction_page_build]
  refine ⟨hidesAdverts, by simp, ⟨by decide, by decide +kernel, ?_, ?_⟩, rfl⟩
  · exact isSeen_iff.mpr (.inl (by decide +kernel))
  · intro u hu hunhide _ hseen
    rcases List.mem_cons.mp hu with rfl | hu
    · exact absurd hunhide (by decide)
    · obtain rfl := List.mem_singleton.mp hu
      have hnames : ¬ sparesAdverts.namesHost := by decide +kernel
      have hshown := (isSeen_iff.mp hseen).resolve_left hnames
      rw [isShown_iff_of_selectorTokens_eq selectorTokens_sparesAdverts] at hshown
      exact absurd hshown List.not_mem_nil

end Engine

end Blocklist
