import Mathlib.Logic.ExistsUnique
import Blocklist.Proofs.Engine.Page
import Blocklist.Proofs.Engine.Reach
/-!
# Engine — where each filter is filed

What an engine does not file it never looks at, and nothing would tell. An
entry is filed at one place at least, whatever its groups of tokens are
(`places_ne_nil`), so an index holds the positions of its entries and no
others (`holds_build_iff`). Main statement: every filter but a badfilter is
held by exactly one index of an engine, the one that its options or its hosts
choose (`filesEach_build`).
-/

namespace Blocklist

/-! ## One index -/

namespace TokenIndex

variable {entries : List IndexEntry} {index : TokenIndex} {position : Nat}

/-- Whether a position is filed: in some bucket, or among those without a token. -/
def Holds (index : TokenIndex) (position : Nat) : Prop :=
  (∃ b ∈ index.buckets, position ∈ b.positions) ∨ position ∈ index.catchAll

theorem holds_iff : index.Holds position ↔
    (∃ token, (token, position) ∈ placesOf index.buckets) ∨ position ∈ index.catchAll := by
  simp only [mem_placesOf]
  refine or_congr_left ⟨?_, ?_⟩
  · rintro ⟨b, hb, hposition⟩
    exact ⟨b.token, b, hb, rfl, hposition⟩
  · rintro ⟨token, b, hb, -, hposition⟩
    exact ⟨b, hb, hposition⟩

/-- **An entry is filed somewhere**, whatever its groups of tokens are. -/
@[simp] theorem places_ne_nil (counts : Std.HashMap UInt32 UInt32) (entry : IndexEntry) :
    places counts entry ≠ [] := by
  unfold places
  split
  · exact List.cons_ne_nil _ _
  · next h =>
    have hgroups : entry.groups ≠ [] := fun hnil => h (List.isEmpty_iff.mpr hnil)
    exact mt List.map_eq_nil_iff.mp hgroups

/-- **No entry is lost, and nothing else comes in.** -/
theorem holds_build_iff :
    (build entries).Holds position ↔ ∃ entry ∈ entries, entry.position = position := by
  simp only [holds_iff, mem_placesOf_build, mem_catchAll_build]
  constructor
  · rintro (⟨token, entry, hentry, hplace⟩ | ⟨entry, hentry, hplace⟩)
    · exact ⟨entry, hentry, (mem_places.mp hplace).1.symm⟩
    · exact ⟨entry, hentry, (mem_places.mp hplace).1.symm⟩
  · rintro ⟨entry, hentry, rfl⟩
    obtain ⟨⟨token, position⟩, hplace⟩ :=
      List.exists_mem_of_ne_nil _ (places_ne_nil (countsOf entries) entry)
    obtain rfl : position = entry.position := (mem_places.mp hplace).1
    -- a place without a token is one of the catch-all, any other one of a bucket
    cases token with
    | none => exact .inr ⟨entry, hentry, hplace⟩
    | some token => exact .inl ⟨token, entry, hentry, hplace⟩

/-- A bucket is opened for a position, so none is empty. -/
theorem positions_ne_nil_of_mem_build {b : Bucket} (hb : b ∈ (build entries).buckets) :
    b.positions ≠ [] :=
  positions_ne_nil_of_mem_foldr hb

end TokenIndex

/-! ## All indexes of an engine -/

/-- Indexes that are filed as they should be, for these numbers of filters. -/
structure Indexes.AreFiled (network cosmetic : Nat) (i : Indexes) : Prop where
  /-- The index of filters that block. -/
  blocks : i.blocks.IsFiled network
  /-- The index of exceptions. -/
  exceptions : i.exceptions.IsFiled network
  /-- The index of filters that redirect. -/
  redirects : i.redirects.IsFiled network
  /-- The index of filters that add policies. -/
  csp : i.csp.IsFiled network
  /-- The index of cosmetic filters by host. -/
  byHost : i.byHost.IsFiled cosmetic
  /-- The index of cosmetic filters for every host. -/
  generic : i.generic.IsFiled cosmetic

/-- Every index of an engine. -/
def Indexes.all (i : Indexes) : List TokenIndex :=
  [i.blocks, i.exceptions, i.redirects, i.csp, i.byHost, i.generic]

/-- Whether a filter has a say in redirects: it redirects what others block, or spares from it. -/
def NetworkFilter.steersRedirects (f : NetworkFilter) : Prop :=
  f.mask.has .redirectRule ∨ f.mask.has .exception ∧ f.mask.has .redirect

/-- Whether its options give a filter a part. Policies come before redirects, and these before
exceptions; all that is left blocks. A badfilter plays no part. -/
def NetworkFilter.Plays (f : NetworkFilter) : NetworkRole → Prop
  | .csp => ¬ f.mask.has .badfilter ∧ f.mask.has .csp
  | .redirect => ¬ f.mask.has .badfilter ∧ ¬ f.mask.has .csp ∧ f.steersRedirects
  | .exception => ¬ f.mask.has .badfilter ∧ ¬ f.mask.has .csp ∧ ¬ f.steersRedirects
      ∧ f.mask.has .exception
  | .block => ¬ f.mask.has .badfilter ∧ ¬ f.mask.has .csp ∧ ¬ f.steersRedirects
      ∧ ¬ f.mask.has .exception

theorem NetworkFilter.role?_eq_some_iff {f : NetworkFilter} {role : NetworkRole} :
    f.role? = some role ↔ f.Plays role := by
  unfold role?
  cases role <;> simp only [Plays, steersRedirects] <;>
    cases f.mask.has .badfilter <;> cases f.mask.has .csp <;> cases f.mask.has .redirectRule <;>
    cases f.mask.has .exception <;> cases f.mask.has .redirect <;> decide

instance (f : NetworkFilter) (role : NetworkRole) : Decidable (f.Plays role) :=
  decidable_of_iff (f.role? = some role) NetworkFilter.role?_eq_some_iff

namespace Engine

variable {network : List NetworkFilter} {cosmetic : List CosmeticFilter}
variable {f : NetworkFilter} {g : CosmeticFilter} {role : NetworkRole} {position : Nat}

/-- **The indexes of an engine are filed as they should be.** -/
theorem areFiled_build (network : List NetworkFilter) (cosmetic : List CosmeticFilter) :
    (Indexes.build network cosmetic).AreFiled network.length cosmetic.length := by
  have hnetwork : ∀ role, ∀ entry ∈ Indexes.networkEntries role network,
      entry.position < network.length := by
    intro role entry hentry
    obtain ⟨f, hf, -⟩ := mem_networkEntries.mp hentry
    exact (List.getElem?_eq_some_iff.mp hf).1
  have hhost : ∀ entry ∈ Indexes.hostEntries cosmetic, entry.position < cosmetic.length := by
    intro entry hentry
    obtain ⟨f, hf, -⟩ := mem_hostEntries.mp hentry
    exact (List.getElem?_eq_some_iff.mp hf).1
  have hgeneric : ∀ entry ∈ Indexes.genericEntries cosmetic,
      entry.position < cosmetic.length := by
    intro entry hentry
    obtain ⟨f, hf, -⟩ := mem_genericEntries.mp hentry
    exact (List.getElem?_eq_some_iff.mp hf).1
  exact {
    blocks := TokenIndex.isFiled_build (hnetwork .block)
    exceptions := TokenIndex.isFiled_build (hnetwork .exception)
    redirects := TokenIndex.isFiled_build (hnetwork .redirect)
    csp := TokenIndex.isFiled_build (hnetwork .csp)
    byHost := TokenIndex.isFiled_build hhost
    generic := TokenIndex.isFiled_build hgeneric }

/-! ## What each index holds -/

/-- The index of a part holds the filters that play it. -/
theorem holds_ofRole_build_iff (network : List NetworkFilter) (cosmetic : List CosmeticFilter) :
    ((Indexes.build network cosmetic).ofRole role).Holds position
      ↔ ∃ f, network[position]? = some f ∧ f.Plays role := by
  rw [Indexes.ofRole_build, TokenIndex.holds_build_iff]
  simp only [mem_networkEntries, NetworkFilter.role?_eq_some_iff]
  constructor
  · rintro ⟨entry, ⟨f, hf, hplays, -⟩, rfl⟩
    exact ⟨f, hf, hplays⟩
  · rintro ⟨f, hf, hplays⟩
    exact ⟨⟨position, f.tokenGroups⟩, ⟨f, hf, hplays, rfl⟩, rfl⟩

theorem holds_byHost_build_iff (network : List NetworkFilter) (cosmetic : List CosmeticFilter) :
    (Indexes.build network cosmetic).byHost.Holds position
      ↔ ∃ g, cosmetic[position]? = some g ∧ g.namesHost := by
  rw [Indexes.build, TokenIndex.holds_build_iff]
  simp only [mem_hostEntries, ← hostGroups?_isSome, Option.isSome_iff_exists]
  constructor
  · rintro ⟨entry, ⟨g, hg, hgroups⟩, rfl⟩
    exact ⟨g, hg, entry.groups, hgroups⟩
  · rintro ⟨g, hg, groups, hgroups⟩
    exact ⟨⟨position, groups⟩, ⟨g, hg, hgroups⟩, rfl⟩

theorem holds_generic_build_iff (network : List NetworkFilter) (cosmetic : List CosmeticFilter) :
    (Indexes.build network cosmetic).generic.Holds position
      ↔ ∃ g, cosmetic[position]? = some g ∧ ¬ g.namesHost := by
  rw [Indexes.build, TokenIndex.holds_build_iff]
  simp only [mem_genericEntries, Bool.not_eq_true]
  constructor
  · rintro ⟨entry, ⟨g, hg, hnames, -⟩, rfl⟩
    exact ⟨g, hg, hnames⟩
  · rintro ⟨g, hg, hnames⟩
    exact ⟨⟨position, g.tokenGroups⟩, ⟨g, hg, hnames, rfl⟩, rfl⟩

/-- A filter of the list is held by the index of a part exactly where it plays it. -/
theorem holds_ofRole_build_iff_of_getElem? (hf : network[position]? = some f) :
    ((Indexes.build network cosmetic).ofRole role).Holds position ↔ f.Plays role := by
  rw [holds_ofRole_build_iff]
  constructor
  · rintro ⟨f', hf', hplays⟩
    obtain rfl := Option.some.inj (hf.symm.trans hf')
    exact hplays
  · exact fun hplays => ⟨f, hf, hplays⟩

/-- A filter that is no badfilter plays exactly one part. -/
theorem existsUnique_plays (hlasts : ¬ f.mask.has .badfilter) : ∃! role, f.Plays role := by
  obtain ⟨role, hrole⟩ :=
    Option.ne_none_iff_exists'.mp (mt NetworkFilter.role?_eq_none_iff.mp hlasts)
  refine ⟨role, NetworkFilter.role?_eq_some_iff.mp hrole, fun role' hplays => ?_⟩
  exact Option.some.inj ((NetworkFilter.role?_eq_some_iff.mpr hplays).symm.trans hrole)

/-- A badfilter plays none. -/
theorem not_plays_of_badfilter (hbad : f.mask.has .badfilter) (role : NetworkRole) :
    ¬ f.Plays role := by
  rw [← NetworkFilter.role?_eq_some_iff, NetworkFilter.role?_eq_none_iff.mpr hbad]
  exact nofun

/-- How the filters of two lists have to be filed: none may be lost, and none held twice. -/
structure FilesEach (network : List NetworkFilter) (cosmetic : List CosmeticFilter)
    (i : Indexes) : Prop where
  /-- The index of a part holds the network filters that play it, and nothing else. -/
  ofRole : ∀ role position, (i.ofRole role).Holds position
    ↔ ∃ f, network[position]? = some f ∧ f.Plays role
  /-- Exactly one index holds a network filter that is no badfilter. -/
  oneRole : ∀ position f, network[position]? = some f → ¬ f.mask.has .badfilter →
    ∃! role, (i.ofRole role).Holds position
  /-- None holds a badfilter. -/
  noRole : ∀ position f, network[position]? = some f → f.mask.has .badfilter →
    ∀ role, ¬ (i.ofRole role).Holds position
  /-- The index by host holds the cosmetic filters that name one, and nothing else. -/
  byHost : ∀ position, i.byHost.Holds position
    ↔ ∃ g, cosmetic[position]? = some g ∧ g.namesHost
  /-- The index for every host holds the cosmetic filters that name none, and nothing else. -/
  generic : ∀ position, i.generic.Holds position
    ↔ ∃ g, cosmetic[position]? = some g ∧ ¬ g.namesHost
  /-- Exactly one of these two holds a cosmetic filter. -/
  oneOfTwo : ∀ position < cosmetic.length,
    (i.generic.Holds position ↔ ¬ i.byHost.Holds position)
  /-- Buckets are in the order of their tokens, and all positions strictly ascending. -/
  filed : i.AreFiled network.length cosmetic.length
  /-- No bucket is empty. -/
  occupied : ∀ index ∈ i.all, ∀ b ∈ index.buckets, b.positions ≠ []

/-- **An engine files each of its filters in one index**, a badfilter in none, and nothing else. -/
theorem filesEach_build (network : List NetworkFilter) (cosmetic : List CosmeticFilter) :
    FilesEach network cosmetic (Engine.build network cosmetic).indexes where
  ofRole role position := holds_ofRole_build_iff network cosmetic
  oneRole position f hf hlasts := by
    obtain ⟨role, hplays, hunique⟩ := existsUnique_plays hlasts
    refine ⟨role, (holds_ofRole_build_iff_of_getElem? hf).mpr hplays, fun role' hholds => ?_⟩
    exact hunique role' ((holds_ofRole_build_iff_of_getElem? hf).mp hholds)
  noRole position f hf hbad role hholds :=
    not_plays_of_badfilter hbad role ((holds_ofRole_build_iff_of_getElem? hf).mp hholds)
  byHost position := holds_byHost_build_iff network cosmetic
  generic position := holds_generic_build_iff network cosmetic
  oneOfTwo position hposition := by
    show (Indexes.build network cosmetic).generic.Holds position
      ↔ ¬ (Indexes.build network cosmetic).byHost.Holds position
    rw [holds_generic_build_iff, holds_byHost_build_iff, List.getElem?_eq_getElem hposition]
    simp
  filed := areFiled_build network cosmetic
  occupied index hindex b hb := by
    obtain ⟨entries, rfl⟩ : ∃ entries, index = TokenIndex.build entries := by
      simp only [Indexes.all, List.mem_cons, List.not_mem_nil, or_false] at hindex
      rcases hindex with rfl | rfl | rfl | rfl | rfl | rfl <;> exact ⟨_, rfl⟩
    exact TokenIndex.positions_ne_nil_of_mem_build hb

/-- A filter that blocks, an exception, an exception from redirects, one from redirects and policies
at once, and a badfilter. -/
def mixedFilters : List NetworkFilter := [
  { mask := .make .full [.firstParty, .thirdParty], pattern := "/ads/" },
  { mask := .make .full [.firstParty, .thirdParty, .exception], pattern := "/ads/free/" },
  { mask := .make .full [.firstParty, .thirdParty, .exception, .redirect], pattern := "*" },
  { mask := .make .full [.firstParty, .thirdParty, .exception, .csp, .redirectRule],
    pattern := "" },
  { mask := .make .full [.firstParty, .thirdParty, .badfilter], pattern := "/ads/" }]

theorem filesEach_build_mixed :
    let i := (Engine.build mixedFilters advertFilters).indexes
    i.redirects.Holds 2 ∧ i.csp.Holds 3 ∧ ¬ i.redirects.Holds 3 ∧
      (∀ role, ¬ (i.ofRole role).Holds 4) ∧ i.byHost.Holds 1 ∧ ¬ i.generic.Holds 1 := by
  intro i
  have h : FilesEach mixedFilters advertFilters i := filesEach_build mixedFilters advertFilters
  have hbyHost : i.byHost.Holds 1 := (h.byHost 1).mpr ⟨advertFilters[1], rfl, by decide +kernel⟩
  refine ⟨(h.ofRole .redirect 2).mpr ⟨mixedFilters[2], rfl, by decide⟩,
    (h.ofRole .csp 3).mpr ⟨mixedFilters[3], rfl, by decide⟩, fun hholds => ?_,
    h.noRole 4 mixedFilters[4] rfl (by decide), hbyHost, fun hgeneric => ?_⟩
  · obtain ⟨f, hf, hplays⟩ := (h.ofRole .redirect 3).mp hholds
    obtain rfl : mixedFilters[3] = f := Option.some.inj hf
    exact absurd hplays (by decide)
  · exact (h.oneOfTwo 1 (by decide)).mp hgeneric hbyHost

end Engine

end Blocklist
